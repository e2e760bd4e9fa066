import LootRules.Proofs.Rule.Named

/-!
# Rules that ask for more

A rule that asks for more selects no other items. It asks for more by having further flags, by
having higher thresholds, and by having a pattern that holds the pattern of the other rule, or that
goes on from it where both are tied to the start of a name.

Each flag is tested by itself, and all that such a test looks at in the rule is the threshold of
that flag. The test for what is in the pack comes behind the others, but it is that of a flag too.
So what the rules do with an item, and what they inscribe on it, makes no difference.
-/

namespace LootRules

/-- What a pattern looks for, without the caret that ties it to the start of a name. -/
def patternText : Text → Text
  | '^' :: start => start
  | pattern => pattern

/-- A pattern asks for all that another one asks for. -/
inductive PatternNarrows (narrow wide : Text) : Prop
  /-- The other may be found anywhere, and it is part of this one. -/
  | within (free : wide.head? ≠ some Rule.anchor) (holds : wide <:+: patternText narrow)
  /-- Both are tied to the start of a name, and this one begins with the other. -/
  | goesOn (tied : narrow.head? = some Rule.anchor) (tied' : wide.head? = some Rule.anchor)
      (begins : patternText wide <+: patternText narrow)

/-- A pattern with an anchor fits the names that begin with what it looks for. -/
theorem fitsPattern_of_anchored {pattern : Text} (h : pattern.head? = some Rule.anchor)
    {name : Text} : fitsPattern pattern name ↔ patternText pattern <+: name := by
  obtain ⟨start, rfl⟩ := List.head?_eq_some_iff.mp h
  exact List.isPrefixOf_iff_prefix

/-- What a pattern looks for is found in every name that it fits. -/
theorem isInfix_of_fitsPattern {pattern name : Text} (h : fitsPattern pattern name) :
    patternText pattern <:+: name := by
  by_cases tied : pattern.head? = some Rule.anchor
  · exact ((fitsPattern_of_anchored tied).mp h).isInfix
  · have free : patternText pattern = pattern := by
      unfold patternText
      split
      · exact absurd rfl tied
      · rfl
    rw [fitsPattern_of_not_anchored tied, Text.occurs_iff] at h
    rw [free]
    exact h

/-- A name that fits a pattern fits the patterns that ask for less. -/
theorem PatternNarrows.fitsPattern {narrow wide : Text} (h : PatternNarrows narrow wide)
    {name : Text} (fits : fitsPattern narrow name) : fitsPattern wide name := by
  cases h with
  | within free holds =>
    rw [fitsPattern_of_not_anchored free, Text.occurs_iff]
    exact holds.trans (isInfix_of_fitsPattern fits)
  | goesOn tied tied' begins =>
    exact (fitsPattern_of_anchored tied').mpr
      (begins.trans ((fitsPattern_of_anchored tied).mp fits))

namespace Rule

/-- A rule asks for all that another one asks for: it has its flags, thresholds that are not lower,
and a pattern that asks for all that the other pattern asks for. -/
structure Narrows (s r : Rule) : Prop where
  flags : ∀ f ∈ r.flags, f ∈ s.flags
  dice : r.dice ≤ s.dice
  bonus : r.bonus ≤ s.bonus
  name : PatternNarrows s.name r.name

variable {r s : Rule} {item : Item} {name : Text}

/-- A rule selects an item when each of its flags holds, its pattern fits, and the item stacks with
something if the rule collects. -/
theorem selects_iff : r.selects item name ↔
    (∀ f ∈ r.flags, r.holds item f) ∧ fitsPattern r.name name ∧
      (.collecting ∈ r.flags → item.stackable) := by
  have flags : r.flags.toList.all (r.holds item) ↔ ∀ f ∈ r.flags, r.holds item f := by
    rw [List.all_eq_true]
    refine forall_congr' fun f => imp_congr_left ?_
    rw [FlagSet.toList, List.mem_filter]
    exact and_iff_right (Flag.mem_flags f)
  have collecting : (!r.flags.contains .collecting || item.stackable) ↔
      (.collecting ∈ r.flags → item.stackable) := by
    rw [Bool.or_eq_true, Bool.not_eq_true', ← Bool.not_eq_true]
    exact Decidable.imp_iff_not_or.symm
  rw [selects, Bool.and_eq_true, Bool.and_eq_true, flags, collecting, and_assoc]

/-- A flag that holds of an item does so with lower thresholds. -/
theorem holds_of_le (dice : r.dice ≤ s.dice) (bonus : r.bonus ≤ s.bonus) {f : Flag}
    (h : s.holds item f) : r.holds item f := by
  cases f with
  | moreDice =>
    have least : s.dice ≤ item.dice.product := of_decide_eq_true h
    exact decide_eq_true (Nat.le_trans dice least)
  | moreBonus =>
    obtain ⟨known, least⟩ := Bool.and_eq_true_iff.mp h
    have lower : (r.bonus : Int) ≤ s.bonus := Int.ofNat_le.mpr bonus
    exact Bool.and_eq_true_iff.mpr
      ⟨known, decide_eq_true (Int.le_trans lower (of_decide_eq_true least))⟩
  | _ => exact h

/-- A rule that asks for more selects no items but those of the other. -/
theorem selects_of_narrows (h : s.Narrows r) (item : Item) (name : Text)
    (selected : s.selects item name) : r.selects item name := by
  obtain ⟨holds, fits, stackable⟩ := selects_iff.mp selected
  refine selects_iff.mpr ⟨fun f mem => ?_, h.name.fitsPattern fits, fun collects => ?_⟩
  · exact holds_of_le h.dice h.bonus (holds f (h.flags f mem))
  · exact stackable (h.flags .collecting collects)

/-- A rule that destroys long swords asks for more than one that keeps swords, though it is tied to
the start of a name and inscribes what it selects. -/
theorem selects_of_narrows_longSword :
    let wide : Rule :=
      { flags := .ofList [.moreDice, .weapons], dice := 8, name := "sword".toList }
    let narrow : Rule :=
      { action := .single false .destroy
        flags := .ofList [.moreDice, .moreBonus, .weapons, .collecting], dice := 10, bonus := 3
        name := "^long sword".toList, inscription := some "@w1".toList }
    let sword : Item :=
      { name := "Long Sword".toList, kind := .sword, dice := ⟨2, 5⟩, baseDice := ⟨2, 5⟩
        toDam := 4, stackable := true }
    narrow.Narrows wide ∧ narrow.selects sword sword.matchName ∧
      wide.selects sword sword.matchName := by
  intro wide narrow sword
  have narrows : narrow.Narrows wide := by
    refine ⟨?_, by decide, by decide, .within (by decide) ⟨"long ".toList, [], by decide⟩⟩
    intro f
    cases f <;> decide
  have selected : narrow.selects sword sword.matchName := by decide +kernel
  exact ⟨narrows, selected, selects_of_narrows narrows sword sword.matchName selected⟩

end Rule

end LootRules
