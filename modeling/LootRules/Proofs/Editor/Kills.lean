import LootRules.Proofs.Editor.Place
import LootRules.Proofs.Editor.Refusal

/-!
# Kills add up

Kills that follow one another take away what is behind the cursor, piece by piece, and the yank
buffer collects it. At every moment the killed text, put in front of what is still behind the
cursor, is what was behind it before the first kill. One kill keeps that up: it moves either the
rest of the line or a line break from the one side to the other, or nothing at all. So pasting
after any number of kills gives the lines back, and there is room for them, as there was before.
-/

namespace LootRules

namespace Editor

variable {e : Editor} {above : List Text} {before behind : Text} {below : List Text}

namespace StandsAt

/-- Behind the cursor nothing is left of its line when the rest of the line is killed. -/
theorem killRest (h : e.StandsAt above before behind below) (yank : Yank) (redraw : Redraw) :
    ({ e with yank }.edit (e.lines.set e.row before) redraw).StandsAt above before [] below := by
  have left : ∀ c ∈ before ++ [], Text.Alone c := by
    rw [List.append_nil]
    exact fun c mem => h.alone c (List.mem_append_left _ mem)
  refine ⟨?_, h.row, h.col, left, h.below_alone⟩
  rw [h.set_lines, List.append_nil]
  exact lines_edit _ (by simp) redraw

/-- Behind the cursor stands the next line when the break between them is killed. -/
theorem joinBelow {line : Text} {rest : List Text} (h : e.StandsAt above before [] (line :: rest)) :
    e.joinBelow.StandsAt above before line rest := by
  have ended : e.line = before := by rw [h.line_eq, List.append_nil]
  obtain ⟨next, later⟩ := List.forall_mem_cons.mp h.below_alone
  have start : ∀ c ∈ before, Text.Alone c := fun c mem => h.alone c (List.mem_append_left _ mem)
  refine ⟨?_, h.row, h.width_eq, List.forall_mem_append.mpr ⟨start, next⟩, later⟩
  rw [Editor.joinBelow, h.take_lines, ended, h.line_below, h.drop_lines_below]
  exact lines_edit _ (by simp) _

/-- At the end of a line that is not the last, the cursor has nothing behind it and a line below. -/
theorem exists_below (h : e.StandsAt above before behind below) (stop : e.width ≤ e.col)
    (next : e.row < e.document.lastRow) : behind = [] ∧ ∃ line rest, below = line :: rest := by
  rw [h.width_eq, h.col] at stop
  rw [Document.lastRow, h.size_eq, h.row] at next
  exact ⟨List.eq_nil_of_length_eq_zero (by omega), List.exists_cons_of_length_pos (by omega)⟩

end StandsAt

/-- A kill moves something from behind the cursor into the yank buffer, or nothing. -/
theorem StandsAt.afterKill (h : e.StandsAt above before behind below) :
    ∃ behind' below', e.killLine.StandsAt above before behind' below' ∧
      pasted e.killLine.yank behind' below' = pasted e.yank behind below := by
  rcases killLine_cases e with ⟨-, done⟩ | ⟨-, -, done⟩ | ⟨stop, next, done⟩ | ⟨-, -, done⟩
  · rw [done, h.beforeColumn_eq, h.fromColumn_eq]
    refine ⟨[], below, h.killRest _ _, ?_⟩
    change pasted (e.yank.pushText behind) [] below = _
    rw [pasted, extendLast_pieces_pushText, List.append_nil]
    rfl
  · rw [done]
    exact ⟨behind, below, h, rfl⟩
  · obtain ⟨rfl, line, rest, rfl⟩ := h.exists_below stop next
    rw [done]
    refine ⟨line, rest, h.joinBelow.of_eq rfl rfl rfl, ?_⟩
    change pasted e.yank.pushBreak line rest = _
    rw [pasted, extendLast_pieces_pushBreak, List.append_assoc]
    rfl
  · rw [done]
    exact ⟨behind, below, h.of_eq rfl rfl rfl, rfl⟩

/-- The text that a kill would add to: that of the kills just before it. -/
def collected (e : Editor) : Yank := if e.killing then e.yank else {}

/-- The cursor stands behind a text, and what was killed there, put back, would make given lines of
what is behind the cursor. -/
def Owes (e : Editor) (above : List Text) (before : Text) (lines : List Text) : Prop :=
  ∃ behind below, e.StandsAt above before behind below ∧ pasted e.collected behind below = lines

/-- Before any kill nothing is owed. -/
theorem StandsAt.owes (h : e.StandsAt above before behind below) (first : e.killing = false) :
    e.Owes above before (behind :: below) := by
  refine ⟨behind, below, h, ?_⟩
  rw [collected, first, if_neg Bool.false_ne_true]
  rfl

/-- A kill keeps what is owed. -/
theorem Owes.apply {lines : List Text} (h : e.Owes above before lines) :
    (e.apply .killLine).1.Owes above before lines := by
  obtain ⟨behind, below, stands, owed⟩ := h
  obtain ⟨behind', below', killed, same⟩ := (stands.prepare .killLine).afterKill
  refine ⟨behind', below', standsAt_apply killed, ?_⟩
  have yank : (e.apply .killLine).1.collected = (e.prepare .killLine).killLine.yank := by
    rw [collected, killing_apply, if_pos (decide_eq_true rfl), apply_eq]
    rfl
  have begun : (e.prepare .killLine).yank = e.collected := by
    rw [prepare_eq, collected]
    cases e.killing <;> rfl
  rw [yank, same, begun, owed]

/-- Any number of kills keep what is owed. -/
theorem Owes.applyAll {lines : List Text} (h : e.Owes above before lines) (n : Nat) :
    (e.applyAll (List.replicate n .killLine)).Owes above before lines := by
  induction n generalizing e with
  | zero => exact h
  | succ n ih => exact ih h.apply

/-- Pasting behind kills puts back what is owed, for which there is room. -/
theorem Owes.lines_paste {lines : List Text} (h : e.Owes above before lines)
    (kills : e.killing = true) (room : above.length + lines.length ≤ e.limits.maxLines) :
    (e.apply .paste).1.lines = above ++ prependFirst before lines := by
  obtain ⟨behind, below, stands, owed⟩ := h
  rw [collected, if_pos kills] at owed
  rw [stands.lines_apply_paste fun filled => ?_, owed]
  have size := congrArg List.length owed
  rw [pasted, List.length_append, length_extendLast (pieces_ne_nil filled)] at size
  have one := List.length_pos_iff.mpr (pieces_ne_nil filled)
  rw [PasteFits, stands.size_eq]
  omega

/-- After some kills the last command was a kill. -/
theorem killing_applyAll (e : Editor) (n : Nat) :
    (e.applyAll (List.replicate (n + 1) .killLine)).killing = true := by
  induction n generalizing e with
  | zero => exact (killing_apply e .killLine).trans (decide_eq_true rfl)
  | succ n ih => exact ih (e.apply .killLine).1

/-- Commands leave the limits alone. -/
theorem Reachable.limits_applyAll {e : Editor} (h : e.Reachable) (commands : List Command) :
    (e.applyAll commands).limits = e.limits := by
  induction commands generalizing e with
  | nil => rfl
  | cons command commands ih =>
    exact (ih (h.apply command)).trans (rewrites_apply h.wellFormed command).limits

/-- Some kills in a row, whatever they take, and then pasting give the lines back as they were,
unless the kills before them were not over or there were too many lines already. -/
theorem lines_kills_paste {e : Editor} (reached : e.Reachable)
    (printable : ∀ line ∈ e.lines, ∀ c ∈ line, Text.Printable c)
    (room : e.lines.length ≤ e.limits.maxLines) (first : e.killing = false) (n : Nat) :
    ((e.applyAll (List.replicate (n + 1) .killLine)).apply .paste).1.lines = e.lines := by
  have alone : ∀ line ∈ e.lines, ∀ c ∈ line, Text.Alone c :=
    fun line mem c hc => Text.alone_of_printable (printable line mem c hc)
  have stands := standsAt_seen reached.wellFormed.row_lt alone
  have same : e.applyAll (List.replicate (n + 1) .killLine) =
      e.seen.applyAll (List.replicate (n + 1) .killLine) := by
    rw [List.replicate_succ, applyAll, applyAll, apply_seen rfl]
  have owed := (stands.owes first).applyAll (n + 1)
  rw [← same] at owed
  rw [owed.lines_paste (killing_applyAll e n) ?_]
  · exact stands.lines.symm
  · have size : e.lines.length = _ := stands.size_eq
    rw [reached.limits_applyAll, List.length_cons, ← Nat.add_assoc, ← size]
    exact room

/-- A rule, an empty line and another rule, with the cursor in the first and little room in a
line. -/
def apartRules : Editor :=
  (start ["rings".toList, [], "amulets".toList] {} { maxLineLength := 8 }).applyAll
    [.move .right, .move .right]

/-- Of five kills one takes the rest of the first rule, one the break behind it, and the others are
refused, as the second rule is too long to be joined to what is left. Pasting gives all back. -/
theorem lines_kills_paste_apartRules :
    let e := apartRules
    let killed := e.applyAll (List.replicate 5 .killLine)
    e.Reachable ∧ (∀ line ∈ e.lines, ∀ c ∈ line, Text.Printable c) ∧
      e.lines.length ≤ e.limits.maxLines ∧ e.killing = false ∧
      killed.lines = ["ri".toList, "amulets".toList] ∧ (killed.apply .paste).1.lines = e.lines := by
  intro e killed
  have reached : e.Reachable := ((Reachable.start _ _ _).apply _).apply _
  have printable : ∀ line ∈ e.lines, ∀ c ∈ line, Text.Printable c := by
    have all : e.lines.all fun line => line.all fun c => Text.Printable c := by decide +kernel
    simpa only [List.all_eq_true, decide_eq_true_eq] using all
  have room : e.lines.length ≤ e.limits.maxLines := by decide +kernel
  have first : e.killing = false := by decide +kernel
  have taken : killed.lines = ["ri".toList, "amulets".toList] := by decide +kernel
  exact ⟨reached, printable, room, first, taken, lines_kills_paste reached printable room first 4⟩

end Editor

end LootRules
