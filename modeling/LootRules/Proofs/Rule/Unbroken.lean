import LootRules.Proofs.Rule.Parts
import LootRules.Proofs.Rule.RoundTrip
import LootRules.Proofs.Text.Lines
import LootRules.Rule.OfItem

/-!
# Rules stay on their lines

What a rule adds to its name and its inscription when it is written breaks no line, and what is
read from a line was in that line. So a rule that comes from a line, or from an item whose texts
are unbroken, is written on one line.
-/

namespace LootRules

/-- The parts of a split text are parts of it. -/
theorem Text.splitFirst_subset (mark : Char) (s : Text) :
    (splitFirst mark s).1 ⊆ s ∧ ∀ rest ∈ (splitFirst mark s).2, rest ⊆ s := by
  cases split : splitFirst mark s with
  | mk t behind =>
    obtain ⟨-, rfl⟩ := splitFirst_eq_iff.mp split
    refine ⟨List.subset_append_left t _, ?_⟩
    rintro rest rfl
    exact List.subset_append_of_subset_right t (List.subset_cons_self mark rest)

/-- Behind the marks stands the end of the line. -/
theorem readMarks_suffix (a : Action) (s : Text) : (readMarks a s).2 <:+ s := by
  obtain ⟨marks, whole, -⟩ := readMarks_eq_iff.mp (Eq.refl (readMarks a s).2)
  exact ⟨marks, whole.symm⟩

namespace Rule

/-- The name and the inscription of a rule are unbroken. -/
structure Unbroken (r : Rule) : Prop where
  name : r.name.Unbroken
  inscription : ∀ text ∈ r.inscription, Text.Unbroken text

/-- Marks break no line. -/
theorem unbroken_marks (a : Action) : (marks a).Unbroken := by
  rw [marks]
  cases a.display <;> rcases a.policy? with - | p
  any_goals decide
  all_goals cases p <;> decide

/-- The words of a rule break no line. -/
theorem unbroken_word (r : Rule) {k : Keyword} (hk : k ∈ Keyword.table) :
    (r.word k).Unbroken := by
  have table : ∀ k ∈ Keyword.table, k.text.Unbroken ∧ k.suffix.Unbroken := by decide
  obtain ⟨text, ending⟩ := table k hk
  rw [word]
  rw [Keyword.suffix] at ending
  cases slot : k.slot with
  | threshold suffix =>
    rw [slot] at ending
    have number := (Text.Unbroken.decimal (r.number k.flag)).cons (c := ' ') (by decide) (by decide)
    exact (text.append number).append ending
  | adjective | preNoun | noun => exact text

/-- What separates a name from the words breaks no line. -/
theorem unbroken_renderName {r : Rule} (h : r.name.Unbroken) : r.renderName.Unbroken := by
  rw [renderName]
  split <;> split
  · decide
  · exact h.cons (by decide) (by decide)
  · exact h.cons (by decide) (by decide)
  · split
    · exact h
    · exact h.cons (by decide) (by decide)

/-- A rule whose name and inscription are unbroken is written on one line. -/
theorem unbroken_render {r : Rule} (h : r.Unbroken) : r.render.Unbroken := by
  have words : (Text.unwords (r.keywords.map r.word)).Unbroken := by
    refine .unwords fun w hw => ?_
    obtain ⟨k, hk, rfl⟩ := List.mem_map.mp hw
    exact r.unbroken_word (List.mem_filter.mp hk).1
  have inscribed : r.inscribed.Unbroken := by
    rw [inscribed]
    cases inscription : r.inscription with
    | none => decide
    | some text => exact (h.inscription text inscription).cons (by decide) (by decide)
  have named := words.append (unbroken_renderName h.name)
  rw [render_eq, body]
  exact (unbroken_marks r.action).append (named.append inscribed)

/-- The rule of a line has only what is in that line. -/
theorem unbroken_of_parse {line : Text} {allowEmpty : Bool} {r : Rule} (h : line.Unbroken)
    (read : parse line allowEmpty = some r) : r.Unbroken := by
  simp only [parse] at read
  split at read
  · contradiction
  · split at read
    · contradiction
    · rw [Option.some.injEq] at read
      subst read
      have rest := (readMarks_suffix {} line).subset
      obtain ⟨before, behind⟩ := Text.splitFirst_subset '#' (readMarks {} line).2
      refine ⟨?_, fun text mem => h.of_subset (List.Subset.trans (behind text mem) rest)⟩
      have name := (readEnding_sound _).2.trans
        (readPhrases_sound (Text.asciiLower (Text.splitFirst '#' (readMarks {} line).2).1)).2
      exact (h.of_subset (List.Subset.trans before rest)).asciiLower.of_subset name.subset

/-- The rule of an item has only what is in its title, its name and its inscription. -/
theorem unbroken_ofItem {item : Item} {name : Text} (hname : name.Unbroken)
    (title : ∀ title ∈ item.ego, Text.Unbroken title)
    (inscription : ∀ text ∈ item.inscription, Text.Unbroken text) (action : Action) :
    Unbroken { Rule.ofItem item name with action } where
  name := by
    change (item.rulePattern name).Unbroken
    rw [Item.rulePattern]
    split
    · cases ego : item.ego with
      | none => decide
      | some text => exact (title text ego).lower
    · split
      · decide
      · exact hname.lower.cons (by decide) (by decide)
  inscription := inscription

end Rule

end LootRules
