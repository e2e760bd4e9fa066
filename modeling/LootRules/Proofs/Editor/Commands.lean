import LootRules.Editor.Command

/-!
# What commands come to

What stands before and after every command is a fixed change of a few fields, written out
here as one equation for each.

Of the commands themselves, the deleting ones are tangled, since each is made of others.
Deleting backward is deleting forward from the place before the cursor, so there are only two
deletions: of the cluster behind a place, and of the line break at the end of a row. The
theorems say for both directions when which of them is made, and when the command is refused
or has nothing to delete; killing at the end of a row is deleting forward. Pasting is treated
in the same way, with the pieces that the yank buffer stands for.
-/

namespace LootRules.Editor

/-- What comes before a command. -/
theorem prepare_eq (e : Editor) (command : Command) :
    e.prepare command =
      { e with
        yank := if decide (command = .killLine) && !e.killing then {} else e.yank
        killing := decide (command = .killLine)
        col := if command.keepsColumn then e.col else e.cursor.2
        mark := if command.clearsMark then none else e.mark
        redraw := if command.clearsMark && e.mark.isSome then .everything else e.redraw } := by
  have everything : e.redraw.merge .everything = .everything := by
    cases e.redraw <;> rfl
  unfold prepare
  by_cases clears : command.clearsMark = true
  · cases mark : e.mark with
    | none => simp [clears]
    | some m => simp [clears, touch, everything]
  · simp [clears]

/-- What comes before a command leaves the cursor where it is seen. -/
theorem cursor_prepare (e : Editor) (command : Command) :
    (e.prepare command).cursor = e.cursor := by
  rw [prepare_eq]
  refine Prod.ext rfl ?_
  change min (if command.keepsColumn then e.col else min e.col e.width) e.width = min e.col e.width
  split
  · rfl
  · rw [Nat.min_assoc, Nat.min_self]

/-- The first visible row when the cursor has been made visible. -/
def shownTop (e : Editor) : Nat :=
  if e.row < e.top then e.row
  else if e.top + e.height ≤ e.row then e.row + 1 - e.height
  else e.top

/-- Making the cursor visible moves the first visible row. -/
theorem scrollToCursor_eq (e : Editor) : e.scrollToCursor = { e with top := e.shownTop } := by
  unfold scrollToCursor shownTop
  split
  · rfl
  · split <;> rfl

/-- What a command comes to, with what is around it: the visible rows follow the cursor, and
everything is drawn anew when they do, and when a selection moves. -/
theorem apply_eq (e : Editor) (command : Command) :
    (e.apply command).1 =
      let before := e.prepare command
      let after := before.run command
      { after with
        top := after.shownTop
        redraw :=
          if before.top ≠ after.shownTop ∨
              (after.mark.isSome ∧ (before.row, before.col) ≠ (after.row, after.col)) then
            .everything
          else after.redraw } := by
  have everything : ∀ d : Redraw, d.merge .everything = .everything := fun d => by
    cases d <;> rfl
  unfold apply
  simp only [scrollToCursor_eq, touch, everything, Bool.or_eq_true, Bool.and_eq_true,
    decide_eq_true_iff]
  split <;> rfl

/-- The text and the cursor are those that the command itself leaves. -/
theorem text_apply {e f : Editor} {command : Command}
    (run : (e.prepare command).run command = f) :
    (e.apply command).1.row = f.row ∧ (e.apply command).1.col = f.col ∧
      (e.apply command).1.lines = f.lines := by
  rw [apply_eq]
  dsimp only
  rw [run]
  exact ⟨rfl, rfl, rfl⟩

/-- The editor without the cluster behind the cursor. -/
def eraseCluster (e : Editor) : Editor :=
  e.edit (e.lines.set e.row (Text.eraseColumns e.col (e.col + 1) e.line)) (.line e.row)

/-- The editor without the line break below the cursor's row, and the cursor where it was. -/
def joinBelow (e : Editor) : Editor :=
  { e with col := e.width }.edit
    (e.lines.take e.row ++ (e.line ++ e.document.line (e.row + 1)) :: e.lines.drop (e.row + 2))
    .everything

/-- The cursor's row and the row below it make a line that is not too long. -/
def JoinFits (e : Editor) : Prop :=
  e.width + e.document.columns (e.row + 1) ≤ e.limits.maxLineLength

/-- The editor with the cursor in the row above. -/
def above (e : Editor) : Editor := { e with row := e.row - 1 }

/-- Deleting backward is refused where the joined line would be too long. -/
theorem deleteBack_of_full {e : Editor} (col : e.col = 0) (row : 0 < e.row)
    (full : ¬ e.above.JoinFits) : e.deleteBack = (e.refuse, false) := by
  have long : e.limits.maxLineLength < Text.columns (e.document.line (e.row - 1)) + e.width := by
    rw [JoinFits, Nat.not_le, above, Document.columns, Nat.sub_add_cancel row] at full
    exact full
  rw [deleteBack, if_neg (col ▸ Nat.lt_irrefl 0), if_neg (Nat.pos_iff_ne_zero.mp row)]
  exact if_pos long

/-- Deleting backward takes the cluster before the cursor, or at the start of a row the break
before it. -/
theorem deleteBack_cases (e : Editor) :
    (0 < e.col ∧ e.deleteBack = (eraseCluster { e with col := e.col - 1 }, true)) ∨
      (e.col = 0 ∧ e.row = 0 ∧ e.deleteBack = (e, false)) ∨
      (e.col = 0 ∧ 0 < e.row ∧ e.above.JoinFits ∧ e.deleteBack = (e.above.joinBelow, true)) ∨
      (e.col = 0 ∧ 0 < e.row ∧ ¬ e.above.JoinFits ∧ e.deleteBack = (e.refuse, false)) := by
  by_cases col : 0 < e.col
  · refine .inl ⟨col, ?_⟩
    have back : e.col - 1 + 1 = e.col := Nat.sub_add_cancel col
    rw [deleteBack, if_pos col, eraseCluster]
    simp only [back]
    rfl
  · have start : e.col = 0 := Nat.eq_zero_of_not_pos col
    by_cases row : e.row = 0
    · refine .inr (.inl ⟨start, row, ?_⟩)
      rw [deleteBack, if_neg col, if_pos row]
    · have pos : 0 < e.row := Nat.pos_of_ne_zero row
      have below : e.row - 1 + 1 = e.row := Nat.sub_add_cancel pos
      have below' : e.row - 1 + 2 = e.row + 1 := by omega
      by_cases fits : e.above.JoinFits
      · refine .inr (.inr (.inl ⟨start, pos, fits, ?_⟩))
        have short : ¬ e.limits.maxLineLength <
            Text.columns (e.document.line (e.row - 1)) + e.width := by
          rw [JoinFits, above, Document.columns, below] at fits
          exact Nat.not_lt.mpr fits
        rw [deleteBack, if_neg col, if_neg row]
        refine (if_neg short).trans ?_
        rw [joinBelow, above]
        simp only [below, below']
        rfl
      · exact .inr (.inr (.inr ⟨start, pos, fits, deleteBack_of_full start pos fits⟩))

/-- Deleting forward is refused where the joined line would be too long. -/
theorem deleteForward_of_full {e : Editor} (col : e.width ≤ e.col)
    (row : e.row < e.document.lastRow) (full : ¬ e.JoinFits) :
    e.deleteForward = (e.refuse, false) := by
  have step : e.stepForward? = some { e with row := e.row + 1, col := 0 } :=
    (if_neg (Nat.not_lt.mpr col)).trans (if_pos row)
  have back : deleteBack { e with row := e.row + 1, col := 0 } =
      (refuse { e with row := e.row + 1, col := 0 }, false) :=
    deleteBack_of_full rfl (Nat.succ_pos e.row) full
  rw [deleteForward, step]
  simp only [back]
  rfl

/-- Deleting forward takes the cluster behind the cursor, or at the end of a row the break behind
it. -/
theorem deleteForward_cases (e : Editor) :
    (e.col < e.width ∧ e.deleteForward = (e.eraseCluster, true)) ∨
      (e.width ≤ e.col ∧ e.document.lastRow ≤ e.row ∧ e.deleteForward = (e, false)) ∨
      (e.width ≤ e.col ∧ e.row < e.document.lastRow ∧ e.JoinFits ∧
        e.deleteForward = (e.joinBelow, true)) ∨
      (e.width ≤ e.col ∧ e.row < e.document.lastRow ∧ ¬ e.JoinFits ∧
        e.deleteForward = (e.refuse, false)) := by
  by_cases col : e.col < e.width
  · refine .inl ⟨col, ?_⟩
    have step : e.stepForward? = some { e with col := e.col + 1 } := if_pos col
    have back : deleteBack { e with col := e.col + 1 } = (e.eraseCluster, true) :=
      if_pos (Nat.succ_pos e.col)
    rw [deleteForward, step]
    simp only [back]
  · have stop : e.width ≤ e.col := Nat.le_of_not_lt col
    by_cases row : e.row < e.document.lastRow
    · have step : e.stepForward? = some { e with row := e.row + 1, col := 0 } :=
        (if_neg col).trans (if_pos row)
      refine .inr (.inr ?_)
      rcases deleteBack_cases { e with row := e.row + 1, col := 0 } with
        ⟨pos, -⟩ | ⟨-, zero, -⟩ | ⟨-, -, fits, back⟩ | ⟨-, -, full, -⟩
      · exact absurd pos (Nat.lt_irrefl 0)
      · exact absurd zero (Nat.succ_ne_zero e.row)
      · refine .inl ⟨stop, row, fits, ?_⟩
        rw [deleteForward, step]
        simp only [back]
        rfl
      · exact .inr ⟨stop, row, full, deleteForward_of_full stop row full⟩
    · have step : e.stepForward? = none := (if_neg col).trans (if_neg row)
      refine .inr (.inl ⟨stop, Nat.le_of_not_lt row, ?_⟩)
      rw [deleteForward, step]

/-- Killing is refused where the joined line would be too long. -/
theorem killLine_of_full {e : Editor} (col : e.width ≤ e.col) (row : e.row < e.document.lastRow)
    (full : ¬ e.JoinFits) : e.killLine = e.refuse := by
  rw [killLine, if_neg (Nat.not_lt.mpr col), deleteForward_of_full col row full]

/-- Within a row, killing takes the rest of it. -/
theorem killLine_of_lt {e : Editor} (inside : e.col < e.width) :
    e.killLine =
      edit { e with yank := e.yank.pushText (Text.fromColumn e.col e.line) }
        (e.lines.set e.row (Text.beforeColumn e.col e.line)) (.line e.row) :=
  if_pos inside

/-- At the end of a row, killing is deleting forward into the yank buffer. -/
theorem killLine_of_le {e : Editor} (stop : e.width ≤ e.col) :
    ∃ yank, e.killLine = { e.deleteForward.1 with yank } := by
  rw [killLine, if_neg (Nat.not_lt.mpr stop)]
  split
  · next done => exact ⟨_, by rw [done]⟩
  · next done => exact ⟨_, by rw [done]⟩

/-- Killing takes the rest of the row, or at its end the break behind it. -/
theorem killLine_cases (e : Editor) :
    (e.col < e.width ∧
      e.killLine =
        edit { e with yank := e.yank.pushText (Text.fromColumn e.col e.line) }
          (e.lines.set e.row (Text.beforeColumn e.col e.line)) (.line e.row)) ∨
      (e.width ≤ e.col ∧ e.document.lastRow ≤ e.row ∧ e.killLine = e) ∨
      (e.width ≤ e.col ∧ e.row < e.document.lastRow ∧
        e.killLine = { e.joinBelow with yank := e.yank.pushBreak }) ∨
      (e.width ≤ e.col ∧ e.row < e.document.lastRow ∧ e.killLine = e.refuse) := by
  cases Nat.lt_or_ge e.col e.width with
  | inl inside => exact .inl ⟨inside, killLine_of_lt inside⟩
  | inr stop =>
    refine .inr ?_
    rcases deleteForward_cases e with
      ⟨inside, -⟩ | ⟨-, last, done⟩ | ⟨-, next, -, done⟩ | ⟨-, next, full, -⟩
    · exact absurd inside (Nat.not_lt.mpr stop)
    · refine .inl ⟨stop, last, ?_⟩
      rw [killLine, if_neg (Nat.not_lt.mpr stop), done]
    · refine .inr (.inl ⟨stop, next, ?_⟩)
      rw [killLine, if_neg (Nat.not_lt.mpr stop), done]
      rfl
    · exact .inr (.inr ⟨stop, next, killLine_of_full stop next full⟩)

/-- The pieces that a yank buffer is pasted as, with a line break between neighbours. -/
def pieces (yank : Yank) : List Text := yank.segments ++ if yank.endsWithBreak then [[]] else []

/-- The editor with some pieces put in at the cursor, which goes behind them. -/
def splicePieces (e : Editor) (pieces : List Text) : Editor :=
  let begun := prependFirst (Text.beforeColumn e.col e.line) pieces
  edit { e with row := e.row + (pieces.length - 1), col := Text.columns (begun.getLast?.getD []) }
    (e.lines.take e.row ++ Yank.extendLast (Text.fromColumn e.col e.line) begun ++
      e.lines.drop (e.row + 1))
    .everything

/-- There is room for what the yank buffer would put in. -/
def PasteFits (e : Editor) : Prop :=
  e.document.size + ((pieces e.yank).length - 1) ≤ e.limits.maxLines

/-- A buffer with segments is not empty. -/
theorem isEmpty_eq_false {yank : Yank} (h : yank.segments ≠ []) : ¬ yank.isEmpty = true :=
  fun empty => h (List.isEmpty_iff.mp empty)

/-- Pasting is refused where there would be too many lines. -/
theorem paste_of_full {e : Editor} (filled : e.yank.segments ≠ []) (full : ¬ e.PasteFits) :
    e.paste = e.refuse := by
  rw [paste, if_neg (isEmpty_eq_false filled)]
  exact if_pos (Nat.not_le.mp full)

/-- Pasting puts in the pieces of the yank buffer. -/
theorem paste_cases (e : Editor) :
    (e.yank.segments = [] ∧ e.paste = e) ∨
      (e.yank.segments ≠ [] ∧ e.PasteFits ∧ e.paste = e.splicePieces (pieces e.yank)) ∨
      (e.yank.segments ≠ [] ∧ ¬ e.PasteFits ∧ e.paste = e.refuse) := by
  by_cases empty : e.yank.segments = []
  · refine .inl ⟨empty, ?_⟩
    rw [paste, Yank.isEmpty, empty]
    rfl
  · refine .inr ?_
    by_cases fits : e.PasteFits
    · refine .inl ⟨empty, fits, ?_⟩
      rw [paste, if_neg (isEmpty_eq_false empty)]
      exact if_neg (Nat.not_lt.mpr fits)
    · exact .inr ⟨empty, fits, paste_of_full empty fits⟩

end LootRules.Editor
