import LootRules.Editor.Toggle
import LootRules.Proofs.Rule.RoundTrip

/-!
# Flags put in and taken out

A flag is put into a rule or taken out of it by `setFlag`, which takes out the other members of
its group in both cases. `Toggled` says what has become of a rule. The rule is then written, and
since a number is written only with its threshold, what is read back has lost the number of a
threshold that is gone.

That the others of the group go when the flag is taken out is more than a group asks for: taking
`good` out of a rule for average things leaves it for things of any quality.
-/

namespace LootRules

/-- The other flag is a member of the group that this flag belongs to. -/
def Flag.excludes (f g : Flag) : Bool := f.group.any fun group => g ∈ group.members

/-- The nouns are a group. -/
theorem Flag.excludes_of_isNoun {f g : Flag} (hf : f.isNoun) (hg : g.isNoun) : f.excludes g := by
  have group : f.group = some .noun := group_eq_some_iff.mpr (mem_nouns_iff.mpr hf)
  rw [excludes, group]
  exact decide_eq_true (mem_nouns_iff.mpr hg)

namespace Rule

/-- The rule `r'` is `r` with the flag put in or taken out, and the other members of its group taken
out. It has the numbers of the thresholds that it asks for. -/
structure Toggled (f : Flag) (add : Bool) (r r' : Rule) : Prop where
  flag : f ∈ r'.flags ↔ add = true
  others : ∀ g, g ≠ f → (g ∈ r'.flags ↔ g ∈ r.flags ∧ f.excludes g = false)
  dice : r'.dice = if .moreDice ∈ r'.flags then r.dice else 0
  bonus : r'.bonus = if .moreBonus ∈ r'.flags then r.bonus else 0
  action : r'.action = r.action
  name : r'.name = r.name
  inscription : r'.inscription = r.inscription

/-- All other flags stay in a rule just when it has none of the flag's group. -/
theorem Toggled.keeps_iff {f : Flag} {add : Bool} {r r' : Rule} (h : Toggled f add r r') :
    (∀ g, g ≠ f → (g ∈ r'.flags ↔ g ∈ r.flags)) ↔
      ∀ g, g ≠ f → g ∈ r.flags → f.excludes g = false := by
  refine forall₂_congr fun g other => ?_
  rw [h.others g other, and_iff_left_iff_imp]

/-- The flags of a rule with a flag put in or taken out. -/
theorem mem_flags_setFlag {r : Rule} {f : Flag} {add : Bool} {g : Flag} :
    g ∈ (r.setFlag f add).flags ↔
      if g = f then add = true else g ∈ r.flags ∧ f.excludes g = false := by
  obtain ⟨others, kept, flags⟩ : ∃ others : FlagSet,
      others.contains g = (r.flags.contains g && !f.excludes g) ∧
        (r.setFlag f add).flags = if add then others.insert f else others.erase f := by
    rw [setFlag, Flag.excludes]
    cases f.group with
    | none => exact ⟨r.flags, (Bool.and_true _).symm, rfl⟩
    | some group =>
      refine ⟨r.flags.eraseGroup group, ?_, rfl⟩
      rw [FlagSet.contains_eraseGroup, Option.any_some, decide_not]
  have contains : (r.setFlag f add).flags.contains g =
      if g = f then add else r.flags.contains g && !f.excludes g := by
    rw [flags]
    cases add with
    | true =>
      rw [if_pos rfl, FlagSet.contains_insert, kept]
      by_cases same : g = f <;> simp [same]
    | false =>
      rw [if_neg Bool.false_ne_true, FlagSet.contains_erase, kept]
      by_cases same : g = f <;> simp [same]
  change (r.setFlag f add).flags.contains g = true ↔ _
  rw [contains]
  split
  · exact Iff.rfl
  · rw [Bool.and_eq_true, Bool.not_eq_true']
    exact Iff.rfl

/-- The rule without the numbers of thresholds that it does not ask for. -/
def withoutIdle (r : Rule) : Rule :=
  { r with
    dice := if .moreDice ∈ r.flags then r.dice else 0
    bonus := if .moreBonus ∈ r.flags then r.bonus else 0 }

/-- Only the numbers of thresholds are written. -/
theorem flag_of_threshold {k : Keyword} (hk : k ∈ Keyword.table) {suffix : Text}
    (slot : k.slot = .threshold suffix) : k.flag = .moreDice ∨ k.flag = .moreBonus := by
  have all : ∀ k ∈ Keyword.table, (k.flag = .moreDice ∨ k.flag = .moreBonus) ∨
      (k.slot = .adjective ∨ k.slot = .preNoun ∨ k.slot = .noun) := by decide +kernel
  rcases all k hk with threshold | other
  · exact threshold
  · rw [slot] at other
    simp at other

/-- A number that is not asked for is not written. -/
theorem render_withoutIdle (r : Rule) : r.withoutIdle.render = r.render := by
  have number {k : Keyword} (asked : k.flag ∈ r.flags)
      (threshold : k.flag = .moreDice ∨ k.flag = .moreBonus) :
      r.withoutIdle.number k.flag = r.number k.flag := by
    rcases threshold with flag | flag
    · rw [flag] at asked ⊢
      exact if_pos asked
    · rw [flag] at asked ⊢
      exact if_pos asked
  have words : r.keywords.map r.withoutIdle.word = r.keywords.map r.word := by
    refine List.map_congr_left fun k hk => ?_
    obtain ⟨mem, asked⟩ := List.mem_filter.mp hk
    rw [word, word]
    cases slot : k.slot with
    | threshold suffix =>
      simp only [number (of_decide_eq_true asked) (flag_of_threshold mem slot)]
    | adjective | preNoun | noun => rfl
  calc r.withoutIdle.render
      = marks r.action ++ (Text.unwords (r.keywords.map r.withoutIdle.word) ++ r.renderName ++
          r.inscribed) := render_eq r.withoutIdle
    _ = r.render := by rw [words, render_eq, body]

/-- A rule that has a line has one with a flag put in or taken out. -/
theorem writable_setFlag {r : Rule} (h : r.Writable) (f : Flag) (add : Bool) :
    (r.setFlag f add).withoutIdle.Writable where
  policy := h.policy
  noun_unique := by
    intro g hg j hj noun noun'
    have hg := mem_flags_setFlag.mp hg
    have hj := mem_flags_setFlag.mp hj
    split at hg <;> split at hj
    · next same same' => rw [same, same']
    · next same _ =>
      rw [← same, Flag.excludes_of_isNoun noun noun'] at hj
      exact absurd hj.2 (by decide)
    · next _ same =>
      rw [← same, Flag.excludes_of_isNoun noun' noun] at hg
      exact absurd hg.2 (by decide)
    · exact h.noun_unique g hg.1 j hj.1 noun noun'
  dice_le := by
    change ite _ r.dice 0 ≤ 99
    split
    · exact h.dice_le
    · exact Nat.zero_le 99
  bonus_le := by
    change ite _ r.bonus 0 ≤ 99
    split
    · exact h.bonus_le
    · exact Nat.zero_le 99
  dice_eq_zero := fun absent => if_neg absent
  bonus_eq_zero := fun absent => if_neg absent
  not_mem_name := h.not_mem_name
  name_lower := h.name_lower

/-- A rule is read back with the flag put in or taken out. -/
theorem parse_render_setFlag {r : Rule} (h : r.Writable)
    (name : ¬ Keyword.realmWord <+: r.name) (f : Flag) (add allowEmpty : Bool) :
    ∃ r', parse (r.setFlag f add).render allowEmpty = some r' ∧ Toggled f add r r' := by
  refine ⟨(r.setFlag f add).withoutIdle, ?_, ?_⟩
  · rw [← render_withoutIdle]
    exact parse_render_of_name (writable_setFlag h f add) name
  · constructor
    · exact mem_flags_setFlag.trans (iff_of_eq (if_pos rfl))
    · exact fun g other => mem_flags_setFlag.trans (iff_of_eq (if_neg other))
    all_goals rfl

end Rule

end LootRules
