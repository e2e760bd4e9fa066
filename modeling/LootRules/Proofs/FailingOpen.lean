import LootRules.Proofs.Condition.Unclosed
import LootRules.Proofs.Editor.Rewriting
import LootRules.Proofs.Session.Persistence

/-!
# Conditions that fail open

A condition switches off what is below it only by being false. One that cannot be read, because a
bracket in it is never closed, has a value of its own instead, and leaves the lines below it
switched on, for the game and for the editor. That is so for all brackets that stay open by count,
as long as no opening bracket is glued to what is before it and no operator is without text. Glued
to a word, the opening bracket is read as the end of the word, and the next closing bracket closes
the one before: so `[AND 0[]` is false.
-/

namespace LootRules

/-- Below a condition that is not false, lines are read as at the start of a file. -/
theorem RuleSet.rules_ofLines_condition {player : Player} {condition : Text}
    (h : player.eval condition ≠ ['0']) (above below : List Text) :
    (ofLines player (above ++ (Condition.linePrefix ++ condition) :: below)).rules =
      (ofLines player above).rules ++ (ofLines player below).rules := by
  have on : Condition.isFalse (player.eval condition) = false :=
    Bool.eq_false_iff.mpr fun off => h (Condition.isFalse_iff.mp off)
  have holds : Condition.ofLine? (Condition.linePrefix ++ condition) = some condition :=
    Condition.ofLine?_eq_some_iff.mpr rfl
  have start : (ofLines player (above ++ (Condition.linePrefix ++ condition) :: below)).rules =
      activeRules player ({} : LineState).bypass
        (above ++ (Condition.linePrefix ++ condition) :: below) := rfl
  rw [start, activeRules_append, activeRules_cons]
  dsimp only
  rw [LineState.bypass_next_of_condition holds, Rule.parse_condition holds, on]
  rfl

/-- Below a condition that is not false, up to the next condition, no row of an editor is switched
off. -/
theorem Editor.Reachable.bypass_eq_false {e : Editor} (reached : e.Reachable) {condition : Text}
    (h : e.player.eval condition ≠ ['0']) {row below : Nat}
    (line : e.document.line row = Condition.linePrefix ++ condition) (order : row ≤ below)
    (between : ∀ i, row < i → i ≤ below → ¬ Condition.linePrefix <+: e.document.line i) :
    (e.document.state below).bypass = false := by
  by_cases inside : below < e.document.size
  · rw [Bool.eq_false_iff]
    intro off
    have made := reached.document_eq
    rw [made] at inside off line between
    obtain ⟨i, le, ⟨other, written, false'⟩, later⟩ := (Document.bypass_state_ofLines inside).mp off
    rcases Nat.lt_trichotomy i row with before | rfl | after
    · exact later row before order (line ▸ List.prefix_append _ _)
    · rw [List.append_cancel_left (line.symm.trans written)] at h
      exact h false'
    · exact between i after le (written ▸ List.prefix_append _ _)
  · have states : e.document.states.length = e.document.size := by
      rw [reached.document_eq]
      exact Document.ofLines_states_length _ _
    rw [Document.state, List.getD_eq_getElem?_getD,
      List.getElem?_eq_none (states ▸ Nat.le_of_not_lt inside)]
    rfl

/-- A condition that begins with a bracket that is never closed has the value of an unclosed
bracket, and the lines below it are switched on, in rule sets and in editors, if no opening bracket
in it is glued to what is before it and its operators have text. -/
theorem switched_on_of_staysOpen {player : Player} {blanks t : Text}
    (leading : ∀ c ∈ blanks, Text.isBlank c = true) (never : Condition.StaysOpen 1 t)
    (apart : Condition.glued t = false)
    (filled : ∀ word ∈ Condition.operators ('[' :: t),
      Condition.wordValue player.resolve word ≠ []) :
    let condition := blanks ++ '[' :: t
    let line := Condition.linePrefix ++ condition
    player.eval condition = Condition.unclosed ∧
      (∀ above below, (RuleSet.ofLines player (above ++ line :: below)).rules =
        (RuleSet.ofLines player above).rules ++ (RuleSet.ofLines player below).rules) ∧
      ∀ e : Editor, e.Reachable → e.player = player → ∀ row below, e.document.line row = line →
        row ≤ below →
        (∀ i, row < i → i ≤ below → ¬ Condition.linePrefix <+: e.document.line i) →
        (e.document.state below).bypass = false := by
  intro condition line
  have value : player.eval condition = Condition.unclosed :=
    (Condition.eval_eq_unclosed_iff leading apart filled).mpr never
  have on : player.eval condition ≠ ['0'] := by
    rw [value]
    decide
  refine ⟨value, RuleSet.rules_ofLines_condition on, ?_⟩
  rintro e reached rfl row below written order between
  exact reached.bypass_eq_false on written order between

/-- The condition for mages lacks a bracket, and the rule below it holds for a warrior. -/
theorem switched_on_of_staysOpen_mage :
    let t : Text := "AND [EQU $CLASS Mage] [NOT 1]"
    let line : Text := "?: [AND [EQU $CLASS Mage] [NOT 1]"
    let e := Editor.start [line, "spellbooks".toList] {} {}
    (∀ c ∈ " ".toList, Text.isBlank c = true) ∧ Condition.StaysOpen 1 t ∧
      Condition.glued t = false ∧
      (∀ word ∈ Condition.operators ('[' :: t),
        Condition.wordValue ({} : Player).resolve word ≠ []) ∧
      ({} : Player).eval (" ".toList ++ '[' :: t) = Condition.unclosed ∧
      (RuleSet.ofLines {} [line, "spellbooks".toList]).rules =
        (RuleSet.ofLines {} ["spellbooks".toList]).rules ∧
      (e.document.state 1).bypass = false := by
  intro t line e
  have leading : ∀ c ∈ " ".toList, Text.isBlank c = true :=
    List.all_eq_true.mp (by decide +kernel)
  have never : Condition.StaysOpen 1 t := by decide +kernel
  have apart : Condition.glued t = false := by decide +kernel
  have filled : ∀ word ∈ Condition.operators ('[' :: t),
      Condition.wordValue ({} : Player).resolve word ≠ [] := by
    decide +kernel
  have between : ∀ i, 0 < i → i ≤ 1 → ¬ Condition.linePrefix <+: e.document.line i := by
    intro i after le
    obtain rfl : i = 1 := by omega
    decide +kernel
  obtain ⟨value, rules, rows⟩ := switched_on_of_staysOpen leading never apart filled
  exact ⟨leading, never, apart, filled, value, rules [] ["spellbooks".toList],
    rows e (.start _ _ _) rfl 0 1 rfl (Nat.zero_le 1) between⟩

/-- Two conditions with a bracket that is never closed are false: one where an opening bracket is
glued to the word before it, and one where the operator of the inner bracket has no text. The rule
below the first does not hold. -/
theorem eval_gluedBracket_false :
    let behindWord : Text := "AND 0[]"
    let early : Text := "EQU 5 [$REALM1 ]"
    Condition.StaysOpen 1 behindWord ∧ Condition.StaysOpen 1 early ∧
      ({} : Player).eval ('[' :: behindWord) = ['0'] ∧ ({} : Player).eval ('[' :: early) = ['0'] ∧
      (RuleSet.ofLines {} ["?:[AND 0[]".toList, "spellbooks".toList]).rules = [] := by
  decide +kernel

end LootRules
