import LootRules.Proofs.Rule.Reading

/-!
# The parts of a rule line

Every line falls into its marks, its body and its inscription. The marks go on as long as a fresh
action takes them: it takes one mark that picks a policy and one that hides matches, in any order.
The body ends before the first `#`, and what follows that is the inscription.

Whether a line is a rule depends on these parts alone, and on whether it belongs to another kind of
preference: a rule has a body, unless it is empty altogether and may be. The rule that is read has
the inscription as it stands, and its name is the end of the body in lower case.
-/

namespace LootRules

/-- The marks that pick a policy. -/
def policyMarks : List Char := ['!', '~', ';']

/-- The mark that hides matches from the map. -/
def hidingMark : Char := '('

/-- Marks that an action takes one after another: one that picks a policy, as long as it is to pick
up, and one that hides matches, as long as it shows them. -/
structure Action.Takes (a : Action) (marks : Text) : Prop where
  only : ∀ c ∈ marks, c ∈ policyMarks ∨ c = hidingMark
  policies_le : marks.countP (· ∈ policyMarks) ≤ a.pickup.toNat
  hidings_le : marks.count hidingMark ≤ a.display.toNat

namespace Action

variable {a b : Action} {c : Char} {marks : Text}

/-- A mark uses up what the action takes of its sort, and nothing else. -/
theorem mark?_eq_some (h : a.mark? c = some b) :
    (c ∈ policyMarks ∨ c = hidingMark) ∧
      a.pickup.toNat = b.pickup.toNat + (if c ∈ policyMarks then 1 else 0) ∧
      a.display.toNat = b.display.toNat + (if c = hidingMark then 1 else 0) := by
  simp only [mark?] at h
  split at h
  case h_5 => contradiction
  case h_4 =>
    split at h
    · next shown =>
      obtain rfl := Option.some.inj h
      exact ⟨.inr rfl, rfl, congrArg Bool.toNat shown⟩
    · contradiction
  all_goals
    split at h
    · next picks =>
      obtain rfl := Option.some.inj h
      exact ⟨.inl (by decide), congrArg Bool.toNat picks, rfl⟩
    · contradiction

/-- A mark that an action does not take is of a sort that it takes no more. -/
theorem mark?_eq_none (h : a.mark? c = none) :
    (c ∈ policyMarks → a.pickup = false) ∧ (c = hidingMark → a.display = false) := by
  constructor
  · intro policy
    simp only [policyMarks, List.mem_cons, List.not_mem_nil, or_false] at policy
    rcases policy with rfl | rfl | rfl <;> simpa [mark?] using h
  · rintro rfl
    simpa [mark?, hidingMark] using h

/-- An action takes no marks at all. -/
theorem takes_nil (a : Action) : a.Takes [] where
  only _ mem := absurd mem List.not_mem_nil
  policies_le := Nat.zero_le _
  hidings_le := Nat.zero_le _

/-- The first mark is taken, and the others by the action that it leads to. -/
theorem takes_cons : a.Takes (c :: marks) ↔ ∃ b, a.mark? c = some b ∧ b.Takes marks := by
  have policies : (c :: marks).countP (· ∈ policyMarks) =
      marks.countP (· ∈ policyMarks) + if c ∈ policyMarks then 1 else 0 := by
    rw [List.countP_cons]
    simp only [decide_eq_true_iff]
  have hidings : (c :: marks).count hidingMark =
      marks.count hidingMark + if c = hidingMark then 1 else 0 := by
    rw [List.count_cons]
    simp only [beq_iff_eq]
  constructor
  · rintro ⟨only, policies_le, hidings_le⟩
    obtain ⟨here, below⟩ := List.forall_mem_cons.mp only
    cases mark : a.mark? c with
    | none =>
      obtain ⟨picked, hidden⟩ := mark?_eq_none mark
      rcases here with policy | hides
      · rw [policies, if_pos policy, picked policy] at policies_le
        contradiction
      · rw [hidings, if_pos hides, hidden hides] at hidings_le
        contradiction
    | some b =>
      obtain ⟨-, picks, shows'⟩ := mark?_eq_some mark
      exact ⟨b, rfl, below, by omega, by omega⟩
  · rintro ⟨b, mark, below, policies_le, hidings_le⟩
    obtain ⟨here, picks, shows'⟩ := mark?_eq_some mark
    exact ⟨List.forall_mem_cons.mpr ⟨here, below⟩, by omega, by omega⟩

end Action

/-- The marks that are read are those that the action takes, as far as possible. -/
theorem readMarks_eq_iff {a : Action} {s rest : Text} :
    (readMarks a s).2 = rest ↔
      ∃ marks, s = marks ++ rest ∧ a.Takes marks ∧
        ∀ c ∈ rest.head?, ¬ a.Takes (marks ++ [c]) := by
  induction s generalizing a with
  | nil =>
    rw [readMarks]
    constructor
    · rintro rfl
      exact ⟨[], rfl, a.takes_nil, fun _ first => absurd first (Option.not_mem_none _)⟩
    · rintro ⟨marks, whole, -⟩
      exact (List.append_eq_nil_iff.mp whole.symm).2.symm
  | cons c s ih =>
    rw [readMarks]
    cases mark : a.mark? c with
    | none =>
      have refused (marks : Text) : ¬ a.Takes (c :: marks) := by
        rw [Action.takes_cons, mark]
        rintro ⟨b, taken, -⟩
        contradiction
      constructor
      · rintro rfl
        refine ⟨[], rfl, a.takes_nil, fun d first => ?_⟩
        obtain rfl := Option.some.inj first
        exact refused []
      · rintro ⟨marks, whole, takes, -⟩
        cases marks with
        | nil => exact whole
        | cons d marks =>
          obtain rfl := List.head_eq_of_cons_eq whole
          exact absurd takes (refused marks)
    | some b =>
      have taken (marks : Text) : a.Takes (c :: marks) ↔ b.Takes marks := by
        rw [Action.takes_cons, mark]
        simp
      refine ih.trans ?_
      constructor
      · rintro ⟨marks, rfl, takes, stop⟩
        exact ⟨c :: marks, rfl, (taken marks).mpr takes,
          fun d first more => stop d first ((taken _).mp more)⟩
      · rintro ⟨marks, whole, takes, stop⟩
        cases marks with
        | nil =>
          obtain rfl : c :: s = rest := whole
          exact absurd ((taken []).mpr b.takes_nil) (stop c rfl)
        | cons d marks =>
          obtain ⟨rfl, rfl⟩ := List.cons.inj whole
          exact ⟨marks, rfl, (taken marks).mp takes,
            fun d first more => stop d first ((taken _).mpr more)⟩

/-- A line as its marks, its body and its inscription. -/
structure Parts (line marks body : Text) (inscription : Option Text) : Prop where
  whole : line = marks ++ (body ++ inscription.elim [] (List.cons '#'))
  /-- The marks are those that a fresh action takes, as far as possible. -/
  takes : ({} : Action).Takes marks
  stop : ∀ c ∈ body.head?, ¬ ({} : Action).Takes (marks ++ [c])
  /-- The inscription begins at the first `#`. -/
  not_mem_body : '#' ∉ body

/-- Body and inscription are what is read behind the marks. -/
theorem exists_parts_iff {line body : Text} {inscription : Option Text} :
    (∃ marks, Parts line marks body inscription) ↔
      Text.splitFirst '#' (readMarks {} line).2 = (body, inscription) := by
  rw [Text.splitFirst_eq_iff, readMarks_eq_iff]
  constructor
  · rintro ⟨marks, whole, takes, stop, absent⟩
    refine ⟨absent, marks, whole, takes, fun c first more => ?_⟩
    cases body with
    | cons d body => exact stop c first more
    | nil =>
      cases inscription with
      | none => contradiction
      | some text =>
        -- The mark of an inscription is no mark of an action.
        obtain rfl := Option.some.inj first
        exact absurd (more.only '#' (List.mem_append_right _ List.mem_cons_self)) (by decide)
  · rintro ⟨absent, marks, whole, takes, stop⟩
    refine ⟨marks, whole, takes, fun c first => stop c ?_, absent⟩
    rw [List.head?_append, first]
    rfl

namespace Rule

/-- What stands in the parts of a line decides what is read. -/
theorem parse_of_parts {line marks body : Text} {inscription : Option Text}
    (h : Parts line marks body inscription) (allowEmpty : Bool) :
    parse line allowEmpty =
      if isForeign line ∨ body = [] ∧ (allowEmpty = false ∨ inscription ≠ none) then none
      else some (ofBody (readMarks {} line).1 inscription (Text.asciiLower body)) := by
  have split := exists_parts_iff.mp ⟨marks, h⟩
  rw [parse]
  simp only [split]
  cases isForeign line with
  | true => simp
  | false => cases allowEmpty <;> cases inscription <;> simp

/-- Every line has parts, and what stands in them decides about the rule of the line. There is none
just if the line belongs to another kind of preference, or if it has no body and either has to have
one or has an inscription. Otherwise the rule is one that the format has room for, its name is an
end of the body in lower case, and its inscription is that of the line. -/
theorem parse_parts (line : Text) (allowEmpty : Bool) :
    (∃ marks body inscription, Parts line marks body inscription) ∧
      ∀ marks body inscription, Parts line marks body inscription →
        (parse line allowEmpty = none ↔
          isForeign line ∨ body = [] ∧ (allowEmpty = false ∨ inscription ≠ none)) ∧
        ∀ r, parse line allowEmpty = some r →
          r.Writable ∧ r.name <:+ Text.asciiLower body ∧ r.inscription = inscription := by
  constructor
  · obtain ⟨marks, parts⟩ := exists_parts_iff.mpr (Prod.eta (Text.splitFirst '#' _)).symm
    exact ⟨marks, _, _, parts⟩
  · intro marks body inscription parts
    have read := parse_of_parts parts allowEmpty
    refine ⟨?_, fun r parsed => ⟨writable_of_parse parsed, ?_⟩⟩
    · rw [read]
      split
      · next refused => exact iff_of_true rfl refused
      · next accepted => exact iff_of_false nofun accepted
    · rw [read] at parsed
      split at parsed
      · contradiction
      · obtain rfl := Option.some.inj parsed
        exact ⟨name_ofBody_suffix, rfl⟩

end Rule

end LootRules
