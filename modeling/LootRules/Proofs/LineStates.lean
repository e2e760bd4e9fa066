import LootRules.Document

/-!
# What the states of lines mean

The states of lines are worked out in one pass that carries two facts downward: whether the
condition above is false, and whether the block of registered items has begun. So the state of
a row comes from its line and from the state of the row above alone. From there, by going down
the rows, follows what the states mean in terms of the lines at and above a row: a row is
switched off by the last condition there, and belongs to the block if its header is there.
-/

namespace LootRules

/-- The state of a line below a line with a given state. -/
def LineState.next (player : Player) (above : LineState) (line : Text) : LineState where
  bypass :=
    match Condition.ofLine? line with
    | some condition => Condition.isFalse (player.eval condition)
    | none => above.bypass
  expression := (Condition.ofLine? line).isSome
  autoregister := above.autoregister || line = registerHeader

/-- The first state of a pass, and what the pass carries on. -/
theorem lineStatesAfter_cons (player : Player) (above : LineState) (line : Text)
    (lines : List Text) :
    lineStatesAfter player above.bypass above.autoregister (line :: lines) =
      let state := above.next player line
      state :: lineStatesAfter player state.bypass state.autoregister lines := by
  rw [lineStatesAfter]
  cases holds : Condition.ofLine? line with
  | none => simp only [LineState.next, holds, Option.isSome_none]
  | some condition => simp only [LineState.next, holds, Option.isSome_some]

/-- The state of a row comes from its line and the state above it. -/
theorem getElem?_lineStatesAfter (player : Player) (above : LineState) (lines : List Text)
    (row : Nat) :
    let states := lineStatesAfter player above.bypass above.autoregister lines
    states[row]? =
      lines[row]?.map ((if row = 0 then above else states.getD (row - 1) {}).next player) := by
  induction lines generalizing above row with
  | nil => rfl
  | cons line lines ih =>
    rw [lineStatesAfter_cons]
    cases row with
    | zero => rfl
    | succ row =>
      have later := ih (above.next player line) row
      simp only [List.getElem?_cons_succ, Nat.succ_ne_zero, if_false, Nat.add_sub_cancel] at later ⊢
      rw [later]
      cases row <;> rfl

namespace Condition

/-- A line with a condition is the mark of conditions and the condition behind it. -/
theorem ofLine?_eq_some_iff {line condition : Text} :
    ofLine? line = some condition ↔ line = linePrefix ++ condition :=
  Text.isPrefixOf?_eq_some_iff

/-- A line holds a condition if it starts with the mark of conditions. -/
theorem isSome_ofLine?_iff {line : Text} : (ofLine? line).isSome ↔ linePrefix <+: line := by
  rw [Option.isSome_iff_exists]
  exact exists_congr fun condition => ofLine?_eq_some_iff.trans eq_comm

/-- Any other line holds no condition. -/
theorem ofLine?_eq_none_iff {line : Text} : ofLine? line = none ↔ ¬ linePrefix <+: line := by
  rw [← isSome_ofLine?_iff, Option.not_isSome_iff_eq_none]

/-- The text `0` is false, and nothing else. -/
theorem isFalse_iff {value : Text} : isFalse value = true ↔ value = ['0'] := decide_eq_true_iff

end Condition

namespace Document

/-- The lines of a document made from lines make the same document. -/
theorem ofLines_lines (player : Player) (lines : List Text) :
    ofLines player (ofLines player lines).lines = ofLines player lines := by
  cases lines <;> rfl

/-- A document made from lines has as many rows as there are lines, but at least one. -/
theorem size_ofLines (player : Player) (lines : List Text) :
    (ofLines player lines).size = max lines.length 1 := by
  cases lines with
  | nil => rfl
  | cons line lines =>
    change lines.length + 1 = max (lines.length + 1) 1
    omega

variable {player : Player} {lines : List Text} {row : Nat}

/-- The lines and states of a document that is made from lines. -/
theorem states_ofLines : (ofLines player lines).states =
    lineStatesAfter player ({} : LineState).bypass ({} : LineState).autoregister
      (ofLines player lines).lines := rfl

/-- The state of a row that exists. -/
theorem state_ofLines (h : row < (ofLines player lines).size) :
    (ofLines player lines).state row =
      (if row = 0 then {} else (ofLines player lines).state (row - 1)).next player
        ((ofLines player lines).line row) := by
  have pass := getElem?_lineStatesAfter player {} (ofLines player lines).lines row
  have here : (ofLines player lines).lines[row]? = some ((ofLines player lines).line row) := by
    rw [line, List.getD_eq_getElem?_getD, List.getElem?_eq_getElem h, Option.getD_some]
  dsimp only at pass
  rw [← states_ofLines, here, Option.map_some] at pass
  rw [state, List.getD_eq_getElem?_getD, pass, Option.getD_some]
  rfl

/-- The last condition at or above a row is there, and is false. -/
def LastConditionFalse (d : Document) (player : Player) (row : Nat) : Prop :=
  ∃ i ≤ row,
    (∃ condition, d.line i = Condition.linePrefix ++ condition ∧ player.eval condition = ['0']) ∧
      ∀ j, i < j → j ≤ row → ¬ Condition.linePrefix <+: d.line j

/-- On a row with a condition, that is the last condition. -/
theorem lastConditionFalse_of_condition {d : Document} {condition : Text}
    (h : d.line row = Condition.linePrefix ++ condition) :
    d.LastConditionFalse player row ↔ player.eval condition = ['0'] := by
  constructor
  · rintro ⟨i, le, ⟨other, written, false'⟩, later⟩
    rcases Nat.lt_or_eq_of_le le with above | rfl
    · exact absurd (h ▸ List.prefix_append _ _) (later row above (Nat.le_refl row))
    · rw [List.append_cancel_left (h.symm.trans written)]
      exact false'
  · intro false'
    exact ⟨row, Nat.le_refl row, ⟨condition, h, false'⟩, fun j lt le => by omega⟩

/-- A row without a condition has the last condition of the row above. -/
theorem lastConditionFalse_succ {d : Document}
    (h : ¬ Condition.linePrefix <+: d.line (row + 1)) :
    d.LastConditionFalse player (row + 1) ↔ d.LastConditionFalse player row := by
  constructor
  · rintro ⟨i, le, ⟨condition, written, false'⟩, later⟩
    have above : i ≠ row + 1 := by
      rintro rfl
      exact h (written ▸ List.prefix_append _ _)
    exact ⟨i, by omega, ⟨condition, written, false'⟩, fun j lt le => later j lt (by omega)⟩
  · rintro ⟨i, le, false', later⟩
    refine ⟨i, by omega, false', fun j lt le => ?_⟩
    by_cases last : j = row + 1
    · exact last ▸ h
    · exact later j lt (by omega)

/-- Above the first row there is no condition. -/
theorem not_lastConditionFalse_zero {d : Document} (h : ¬ Condition.linePrefix <+: d.line 0) :
    ¬ d.LastConditionFalse player 0 := by
  rintro ⟨i, le, ⟨condition, written, -⟩, -⟩
  obtain rfl := Nat.le_zero.mp le
  exact h (written ▸ List.prefix_append _ _)

/-- A row is switched off if the last condition at or above it is false. -/
theorem bypass_state_ofLines (h : row < (ofLines player lines).size) :
    ((ofLines player lines).state row).bypass ↔
      (ofLines player lines).LastConditionFalse player row := by
  induction row with
  | zero =>
    rw [state_ofLines h, if_pos rfl, LineState.next]
    cases holds : Condition.ofLine? ((ofLines player lines).line 0) with
    | none =>
      have no := Condition.ofLine?_eq_none_iff.mp holds
      exact iff_of_false Bool.false_ne_true (not_lastConditionFalse_zero no)
    | some condition =>
      rw [lastConditionFalse_of_condition (Condition.ofLine?_eq_some_iff.mp holds)]
      exact Condition.isFalse_iff
  | succ row ih =>
    rw [state_ofLines h, if_neg (Nat.succ_ne_zero row), LineState.next]
    cases holds : Condition.ofLine? ((ofLines player lines).line (row + 1)) with
    | none =>
      rw [lastConditionFalse_succ (Condition.ofLine?_eq_none_iff.mp holds)]
      exact ih (Nat.lt_of_succ_lt h)
    | some condition =>
      rw [lastConditionFalse_of_condition (Condition.ofLine?_eq_some_iff.mp holds)]
      exact Condition.isFalse_iff

/-- A row is a condition if it starts like one. -/
theorem expression_state_ofLines (h : row < (ofLines player lines).size) :
    ((ofLines player lines).state row).expression ↔
      Condition.linePrefix <+: (ofLines player lines).line row := by
  rw [state_ofLines h, LineState.next]
  exact Condition.isSome_ofLine?_iff

/-- A row belongs to the block of registered items if the header is at or above it. -/
theorem autoregister_state_ofLines (h : row < (ofLines player lines).size) :
    ((ofLines player lines).state row).autoregister ↔
      ∃ i ≤ row, (ofLines player lines).line i = registerHeader := by
  induction row with
  | zero =>
    rw [state_ofLines h, if_pos rfl, LineState.next]
    simp
  | succ row ih =>
    rw [state_ofLines h, if_neg (Nat.succ_ne_zero row), LineState.next]
    simp only [Nat.add_sub_cancel, Bool.or_eq_true, decide_eq_true_iff,
      ih (Nat.lt_of_succ_lt h)]
    constructor
    · rintro (⟨i, le, header⟩ | header)
      · exact ⟨i, Nat.le_succ_of_le le, header⟩
      · exact ⟨row + 1, Nat.le_refl _, header⟩
    · rintro ⟨i, le, header⟩
      rcases Nat.le_or_eq_of_le_succ le with above | rfl
      · exact .inl ⟨i, above, header⟩
      · exact .inr header

end Document

end LootRules
