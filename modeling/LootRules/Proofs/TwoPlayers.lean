import LootRules.Proofs.Session.Persistence

/-!
# The same lines for two players

Lines are read for a player, and only through the truth of the conditions on them. So two players
read lines alike if the same conditions are false for both, and the states of the lines tell the
two apart if not. For the rules alone less is enough: of the conditions only those count that have
a rule below them.

The two players met here are one player, before and after items have been registered. Whether that
is so is read off the lines when a file is opened.
-/

namespace LootRules

/-- The same of the conditions on some lines are false for two players. -/
def SwitchAlike (p q : Player) (lines : List Text) : Prop :=
  ∀ condition, Condition.linePrefix ++ condition ∈ lines →
    (p.eval condition = ['0'] ↔ q.eval condition = ['0'])

/-- A player agrees with itself. -/
theorem SwitchAlike.refl (p : Player) (lines : List Text) : SwitchAlike p p lines :=
  fun _ _ => Iff.rfl

/-- Conditions on lines are those on the first and those on the others. -/
theorem switchAlike_cons {p q : Player} {line : Text} {lines : List Text} :
    SwitchAlike p q (line :: lines) ↔ SwitchAlike p q [line] ∧ SwitchAlike p q lines := by
  simp only [SwitchAlike, List.mem_cons, List.not_mem_nil, or_false, or_imp, forall_and]

/-- Below the same line two players see the same state if the line is no condition that only one
of them finds false. -/
theorem LineState.next_eq_next_iff {p q : Player} {above : LineState} {line : Text} :
    above.next p line = above.next q line ↔ SwitchAlike p q [line] := by
  cases holds : Condition.ofLine? line with
  | none =>
    refine iff_of_true (by simp only [next, holds]) fun condition written => ?_
    rw [Condition.ofLine?_eq_some_iff.mpr (List.mem_singleton.mp written).symm] at holds
    contradiction
  | some condition =>
    obtain rfl := Condition.ofLine?_eq_some_iff.mp holds
    have truth : SwitchAlike p q [Condition.linePrefix ++ condition] ↔
        Condition.isFalse (p.eval condition) = Condition.isFalse (q.eval condition) := by
      rw [Bool.eq_iff_iff, Condition.isFalse_iff, Condition.isFalse_iff]
      refine ⟨fun alike => alike condition List.mem_cons_self, fun same other written => ?_⟩
      rwa [List.append_cancel_left (List.mem_singleton.mp written)]
    rw [truth, next, next, holds, LineState.mk.injEq]
    exact and_iff_left ⟨rfl, rfl⟩

/-- The states of lines are the same for two players just if these agree on the conditions. -/
theorem lineStatesAfter_eq_iff {p q : Player} {lines : List Text} (above : LineState) :
    lineStatesAfter p above.bypass above.autoregister lines =
        lineStatesAfter q above.bypass above.autoregister lines ↔ SwitchAlike p q lines := by
  induction lines generalizing above with
  | nil => exact iff_of_true rfl fun _ mem => absurd mem List.not_mem_nil
  | cons line lines ih =>
    rw [lineStatesAfter_cons, lineStatesAfter_cons, switchAlike_cons, List.cons.injEq,
      LineState.next_eq_next_iff]
    refine and_congr_right fun here => ?_
    rw [LineState.next_eq_next_iff.mpr here]
    exact ih (above.next q line)

/-- Documents of the same lines have the same states just if the players agree on the
conditions. -/
theorem Document.states_ofLines_eq_iff {p q : Player} {lines : List Text} (nonempty : lines ≠ []) :
    (ofLines p lines).states = (ofLines q lines).states ↔ SwitchAlike p q lines := by
  obtain ⟨line, rest, rfl⟩ := List.exists_cons_of_ne_nil nonempty
  rw [states_ofLines, states_ofLines]
  exact lineStatesAfter_eq_iff {}

/-- The state of a row is the one below the lines down to it. -/
theorem getElem?_lineStatesAfter_eq_after (player : Player) (above : LineState) {lines : List Text}
    {row : Nat} (h : row < lines.length) :
    (lineStatesAfter player above.bypass above.autoregister lines)[row]? =
      some (above.after player (lines.take (row + 1))) := by
  induction lines generalizing above row with
  | nil => exact absurd h (Nat.not_lt_zero row)
  | cons line lines ih =>
    rw [lineStatesAfter_cons]
    cases row with
    | zero => rfl
    | succ row => exact ih (above.next player line) (Nat.lt_of_succ_lt_succ h)

/-- The line of a row. -/
theorem Document.line_ofLines (player : Player) (lines : List Text) (row : Nat) :
    (ofLines player lines).line row = lines.getD row [] := by
  cases lines with
  | nil => cases row <;> rfl
  | cons line lines => rfl

/-- A row has the state below the lines down to it. -/
theorem Document.state_ofLines_eq_after (player : Player) {lines : List Text} {row : Nat}
    (h : row < lines.length) :
    (ofLines player lines).state row = ({} : LineState).after player (lines.take (row + 1)) := by
  obtain ⟨line, rest, rfl⟩ := List.exists_cons_of_length_pos (Nat.zero_lt_of_lt h)
  rw [state, List.getD_eq_getElem?_getD, states_ofLines]
  exact congrArg (Option.getD · {}) (getElem?_lineStatesAfter_eq_after player {} h)

namespace RuleSet

/-- One more line adds its rule, unless the last condition above is false. -/
theorem rules_ofLines_concat (player : Player) (lines : List Text) (line : Text) :
    (ofLines player (lines ++ [line])).rules =
      (ofLines player lines).rules ++
        if EndsSwitchedOff player lines then [] else (Rule.parse line false).toList := by
  have start : (ofLines player (lines ++ [line])).rules =
      activeRules player ({} : LineState).bypass (lines ++ [line]) := rfl
  rw [start, activeRules_append, activeRules_cons]
  refine congrArg _ ((List.append_nil _).trans ?_)
  cases holds : Condition.ofLine? line with
  | some condition => rw [Rule.parse_condition holds, Option.toList_none, ite_self, ite_self]; rfl
  | none =>
    rw [LineState.bypass_next_of_none holds]
    simp only [bypass_after_iff]
    split <;> rfl

/-- Two players have the same rules if no rule is below a condition that only one of them finds
false. -/
theorem ofLines_eq_ofLines {p q : Player} {lines : List Text}
    (h : ∀ row line, lines[row]? = some line → (Rule.parse line false).isSome →
      (EndsSwitchedOff p (lines.take row) ↔ EndsSwitchedOff q (lines.take row))) :
    ofLines p lines = ofLines q lines := by
  have upTo : ∀ n, (ofLines p (lines.take n)).rules = (ofLines q (lines.take n)).rules := by
    intro n
    induction n with
    | zero => rfl
    | succ n ih =>
      rw [List.take_add_one]
      cases there : lines[n]? with
      | none => exact (List.append_nil (lines.take n)).symm ▸ ih
      | some line =>
        rw [Option.toList_some, rules_ofLines_concat, rules_ofLines_concat, ih]
        cases read : Rule.parse line false with
        | none => simp only [Option.toList_none, ite_self]
        | some r => simp only [h n line there (read ▸ rfl)]
  rw [RuleSet.eq_iff]
  have whole := upTo lines.length
  rwa [List.take_length] at whole

end RuleSet

namespace Player

/-- The player for whom some lines are read on opening them: items have been registered if the
header of their block is there. -/
def atOpening (p : Player) (lines : List Text) : Player :=
  { p with autoregister := p.autoregister || lines.any (· = registerHeader) }

/-- With the header items have been registered. -/
theorem atOpening_of_mem {lines : List Text} (h : registerHeader ∈ lines) (p : Player) :
    p.atOpening lines = p.registered := by
  have header : lines.any (· = registerHeader) = true :=
    List.any_eq_true.mpr ⟨registerHeader, h, decide_eq_true rfl⟩
  rw [atOpening, header, Bool.or_true]
  rfl

/-- Without the header a player stays the same. -/
theorem atOpening_of_not_mem {lines : List Text} (h : registerHeader ∉ lines) (p : Player) :
    p.atOpening lines = p := by
  have header : lines.any (· = registerHeader) = false := by
    rw [Bool.eq_false_iff]
    intro any
    obtain ⟨line, mem, same⟩ := List.any_eq_true.mp any
    exact h (of_decide_eq_true same ▸ mem)
  rw [atOpening, header, Bool.or_false]

/-- A player who has registered items before stays the same. -/
theorem atOpening_eq_self {p : Player} (h : p.autoregister = true) (lines : List Text) :
    p.atOpening lines = p := by
  rw [atOpening, h, Bool.true_or, ← h]

/-- The condition of the block is false until items are registered. -/
theorem eval_header_of_not {p : Player} (h : p.autoregister = false) :
    p.eval "$AUTOREGISTER".toList = ['0'] := by
  have same : p = { p with autoregister := false } := by rw [← h]
  rw [same]
  rfl

end Player

end LootRules
