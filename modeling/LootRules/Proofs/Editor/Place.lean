import LootRules.Proofs.Editor.Rewriting
import LootRules.Proofs.Text.Columns
import LootRules.Proofs.Yank

/-!
# The place of the cursor

Around the cursor a document falls into four parts: the lines above, the text before the cursor in
its line, the text behind it, and the lines below. Pasting leaves them as they are and puts its
pieces in between: the first of them ends the text before the cursor, and the last begins the text
behind it.

The parts are cut by characters. That is where columns cut as long as every character of the line
is a cluster by itself, which is all that is asked here of the characters.
-/

namespace LootRules.Editor

/-- The editor with the cursor where it is seen, which is in its line. -/
def seen (e : Editor) : Editor := { e with col := e.cursor.2 }

/-- What comes before a command that is no motion up or down finds the cursor where it is seen. -/
theorem prepare_seen {e : Editor} {command : Command} (h : command.keepsColumn = false) :
    e.seen.prepare command = e.prepare command := by
  have cursor : e.seen.cursor = e.cursor := by
    refine Prod.ext rfl ?_
    change min (min e.col e.width) e.width = min e.col e.width
    rw [Nat.min_assoc, Nat.min_self]
  rw [prepare_eq, prepare_eq, cursor, h]
  rfl

/-- A command that is no motion up or down works on the cursor where it is seen. -/
theorem apply_seen {e : Editor} {command : Command} (h : command.keepsColumn = false) :
    e.seen.apply command = e.apply command := by
  rw [apply, apply, prepare_seen h]

/-- The cursor stands in its line between two texts, with lines above and below. -/
structure StandsAt (e : Editor) (above : List Text) (before behind : Text) (below : List Text) :
    Prop where
  lines : e.lines = above ++ (before ++ behind) :: below
  row : e.row = above.length
  col : e.col = before.length
  alone : ∀ c ∈ before ++ behind, Text.Alone c
  below_alone : ∀ line ∈ below, ∀ c ∈ line, Text.Alone c

/-- The line of the cursor is one of the lines. -/
theorem line_mem_lines {e : Editor} (row : e.row < e.document.size) : e.line ∈ e.lines := by
  have parts : e.lines = e.lines.take e.row ++ e.line :: e.lines.drop (e.row + 1) :=
    Text.eq_take_append_drop row
  rw [parts]
  exact List.mem_append_right _ List.mem_cons_self

/-- Where it is seen, the cursor stands between the two parts of its line. -/
theorem standsAt_seen {e : Editor} (row : e.row < e.document.size)
    (alone : ∀ line ∈ e.lines, ∀ c ∈ line, Text.Alone c) :
    e.seen.StandsAt (e.lines.take e.row) (e.line.take e.cursor.2) (e.line.drop e.cursor.2)
      (e.lines.drop (e.row + 1)) := by
  have here := alone e.line (line_mem_lines row)
  have wide : e.width = e.line.length := Text.columns_of_alone here
  have inside : e.cursor.2 ≤ e.line.length := wide ▸ Nat.min_le_right e.col e.width
  constructor
  · rw [List.take_append_drop]
    exact Text.eq_take_append_drop row
  · exact (List.length_take_of_le (Nat.le_of_lt row)).symm
  · exact (List.length_take_of_le inside).symm
  · rw [List.take_append_drop]
    exact here
  · exact fun line mem => alone line (List.mem_of_mem_drop mem)

namespace StandsAt

variable {e : Editor} {above : List Text} {before behind : Text} {below : List Text}

/-- The line of the cursor. -/
theorem line_eq (h : e.StandsAt above before behind below) : e.line = before ++ behind := by
  change e.lines.getD e.row [] = _
  rw [h.lines, h.row, List.getD_eq_getElem?_getD, List.getElem?_append_right (Nat.le_refl _),
    Nat.sub_self]
  rfl

/-- The columns of the cursor's line. -/
theorem width_eq (h : e.StandsAt above before behind below) :
    e.width = before.length + behind.length := by
  rw [width, h.line_eq, Text.columns_of_alone h.alone, List.length_append]

/-- The cursor is in its line. -/
theorem col_le (h : e.StandsAt above before behind below) : e.col ≤ e.width := by
  rw [h.width_eq, h.col]
  exact Nat.le_add_right _ _

/-- The line up to the column of the cursor. -/
theorem beforeColumn_eq (h : e.StandsAt above before behind below) :
    Text.beforeColumn e.col e.line = before := by
  rw [h.line_eq, h.col, Text.beforeColumn_of_alone h.alone]
  exact List.take_left

/-- The line from the column of the cursor on. -/
theorem fromColumn_eq (h : e.StandsAt above before behind below) :
    Text.fromColumn e.col e.line = behind := by
  rw [h.line_eq, h.col, Text.fromColumn_of_alone h.alone]
  exact List.drop_left

/-- The lines above the cursor. -/
theorem take_lines (h : e.StandsAt above before behind below) : e.lines.take e.row = above := by
  rw [h.lines, h.row]
  exact List.take_left

/-- The lines below the cursor. -/
theorem drop_lines (h : e.StandsAt above before behind below) :
    e.lines.drop (e.row + 1) = below := by
  rw [h.lines, h.row, List.drop_append]
  simp

/-- Another line in the place of the cursor's line. -/
theorem set_lines (h : e.StandsAt above before behind below) (line : Text) :
    e.lines.set e.row line = above ++ line :: below := by
  rw [h.lines, h.row, List.set_append_right _ _ (Nat.le_refl _), Nat.sub_self]
  rfl

/-- The line below the cursor's line. -/
theorem line_below {line : Text} {rest : List Text}
    (h : e.StandsAt above before behind (line :: rest)) : e.document.line (e.row + 1) = line := by
  have first := congrArg (·[0]?) h.drop_lines
  rw [List.getElem?_drop] at first
  change e.lines.getD (e.row + 1) [] = line
  rw [List.getD_eq_getElem?_getD, first]
  rfl

/-- The lines below the one below the cursor's line. -/
theorem drop_lines_below {line : Text} {rest : List Text}
    (h : e.StandsAt above before behind (line :: rest)) : e.lines.drop (e.row + 2) = rest := by
  have both := congrArg (·.drop 1) h.drop_lines
  rw [List.drop_drop] at both
  exact both

/-- The number of lines. -/
theorem size_eq (h : e.StandsAt above before behind below) :
    e.document.size = above.length + below.length + 1 := by
  change e.lines.length = _
  rw [h.lines, List.length_append, List.length_cons]
  rfl

/-- Only the lines and the cursor matter for where it stands. -/
theorem of_eq (h : e.StandsAt above before behind below) {f : Editor} (lines : f.lines = e.lines)
    (row : f.row = e.row) (col : f.col = e.col) : f.StandsAt above before behind below :=
  ⟨lines.trans h.lines, row.trans h.row, col.trans h.col, h.alone, h.below_alone⟩

/-- What comes before a command leaves the cursor where it stands. -/
theorem prepare (h : e.StandsAt above before behind below) (command : Command) :
    (e.prepare command).StandsAt above before behind below := by
  refine h.of_eq ?_ ?_ ?_
  · exact congrArg Document.lines (document_prepare e command)
  · rw [prepare_eq]
  · rw [prepare_eq]
    change (if command.keepsColumn then e.col else min e.col e.width) = e.col
    rw [Nat.min_eq_left h.col_le, ite_self]

end StandsAt

/-- A command puts the cursor where it stands after the command by itself. -/
theorem standsAt_apply {e : Editor} {command : Command} {above : List Text} {before behind : Text}
    {below : List Text} (h : ((e.prepare command).run command).StandsAt above before behind below) :
    (e.apply command).1.StandsAt above before behind below := by
  rw [apply_eq]
  exact h.of_eq rfl rfl rfl

/-- What is behind the cursor when the text of a yank buffer is put in front of it. -/
def pasted (yank : Yank) (behind : Text) (below : List Text) : List Text :=
  Yank.extendLast behind (pieces yank) ++ below

namespace StandsAt

variable {e : Editor} {above : List Text} {before behind : Text} {below : List Text}

/-- Pieces are put in between what is before the cursor and what is behind it. -/
theorem lines_splicePieces (h : e.StandsAt above before behind below) {pieces : List Text}
    (nonempty : pieces ≠ []) :
    (e.splicePieces pieces).lines =
      above ++ prependFirst before (Yank.extendLast behind pieces ++ below) := by
  have ended : Yank.extendLast behind pieces ≠ [] := by
    refine List.ne_nil_of_length_pos ?_
    rw [length_extendLast nonempty]
    exact List.length_pos_iff.mpr nonempty
  have spliced : e.lines.take e.row ++ Yank.extendLast (Text.fromColumn e.col e.line)
        (prependFirst (Text.beforeColumn e.col e.line) pieces) ++ e.lines.drop (e.row + 1) =
      above ++ prependFirst before (Yank.extendLast behind pieces ++ below) := by
    rw [h.take_lines, h.drop_lines, h.beforeColumn_eq, h.fromColumn_eq,
      extendLast_prependFirst nonempty, List.append_assoc, prependFirst_append ended]
  have written : above ++ prependFirst before (Yank.extendLast behind pieces ++ below) ≠ [] := by
    refine List.append_ne_nil_of_right_ne_nil _ ?_
    obtain ⟨first, rest, cons⟩ := List.exists_cons_of_ne_nil ended
    rw [cons]
    exact List.cons_ne_nil _ _
  rw [splicePieces, spliced]
  exact lines_edit _ written _

/-- Pasting puts the text of the yank buffer in between what is before the cursor and what is behind
it. -/
theorem lines_paste (h : e.StandsAt above before behind below)
    (room : e.yank.segments ≠ [] → e.PasteFits) :
    e.paste.lines = above ++ prependFirst before (pasted e.yank behind below) := by
  rcases paste_cases e with ⟨empty, done⟩ | ⟨filled, -, done⟩ | ⟨filled, full, -⟩
  · have nothing : Yank.extendLast behind (pieces e.yank) = [behind] := by
      rw [pieces, empty]
      cases e.yank.endsWithBreak <;> rfl
    rw [done, pasted, nothing, h.lines]
    rfl
  · rw [done]
    exact h.lines_splicePieces (pieces_ne_nil filled)
  · exact absurd (room filled) full

/-- The command puts in the text of the yank buffer in the same way. -/
theorem lines_apply_paste (h : e.StandsAt above before behind below)
    (room : e.yank.segments ≠ [] → e.PasteFits) :
    (e.apply .paste).1.lines = above ++ prependFirst before (pasted e.yank behind below) := by
  have same : (e.prepare .paste).yank = e.yank ∧
      ((e.prepare .paste).PasteFits ↔ e.PasteFits) := by
    rw [PasteFits, prepare_eq]
    exact ⟨rfl, Iff.rfl⟩
  have pasted := (h.prepare .paste).lines_paste fun filled => same.2.mpr (room (same.1 ▸ filled))
  rw [same.1] at pasted
  rw [apply_eq]
  exact pasted

end StandsAt

end LootRules.Editor
