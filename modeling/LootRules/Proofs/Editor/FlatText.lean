import LootRules.Proofs.Editor.Reachable
import LootRules.Proofs.Text.Join

/-!
# The editor as an editor of one text

The lines of a document with line feeds between them are one text, and the cursor is a place
in it. Seen so, typing, pasting and deleting are all the same: at the cursor some text goes and
some text comes, and everything else stays. A break between lines is a character like others,
so breaking and joining lines need no case of their own.
-/

namespace LootRules

/-- What an edit does to a text at a place: what it deletes before and behind the place, and what
it puts in there. -/
structure Splice where
  back : Text := []
  ahead : Text := []
  inserted : Text := []
  deriving DecidableEq, Repr

/-- A text comes from another by an edit at an offset. -/
def Splice.Applies (s : Splice) (offset : Nat) (before after : Text) : Prop :=
  ∃ start rest, (start ++ s.back).length = offset ∧
    before = start ++ s.back ++ (s.ahead ++ rest) ∧ after = start ++ s.inserted ++ rest

/-- The text that a yank buffer stands for. -/
def Yank.text (y : Yank) : Text :=
  if y.segments.isEmpty then []
  else Text.join y.segments ++ if y.endsWithBreak then ['\n'] else []

namespace Editor

/-- The document as one text. -/
def text (e : Editor) : Text := Text.join e.lines

/-- The offset of the cursor in the text: the lines above it with their line feeds, and what is
before it in its own line. -/
def offset (e : Editor) : Nat :=
  (Text.unlines (e.lines.take e.row)).length + (Text.beforeColumn e.cursor.2 e.line).length

/-- What is deleted backward: a cluster, or the line feed above the line. -/
def clusterBack (e : Editor) : Text :=
  if 0 < e.cursor.2 then (Text.clusters e.line).getD (e.cursor.2 - 1) []
  else if 0 < e.row then ['\n']
  else []

/-- What is deleted forward: a cluster, or the line feed below the line. -/
def clusterAhead (e : Editor) : Text :=
  if e.cursor.2 < e.width then (Text.clusters e.line).getD e.cursor.2 []
  else if e.row < e.document.lastRow then ['\n']
  else []

/-- What is killed: the rest of the line, or the line feed below it. -/
def restAhead (e : Editor) : Text :=
  if e.cursor.2 < e.width then Text.fromColumn e.cursor.2 e.line
  else if e.row < e.document.lastRow then ['\n']
  else []

/-- What the commands that type, paste and delete do to the text. -/
def splice? (e : Editor) : Command → Option Splice
  | .insertChar c => some { inserted := [c] }
  | .breakLine => some { inserted := ['\n'] }
  | .paste => some { inserted := e.yank.text }
  | .backspace => some { back := e.clusterBack }
  | .deleteChar => some { ahead := e.clusterAhead }
  | .killLine => some { ahead := e.restAhead }
  | _ => none

/-- The player is told that there is no room for a command. -/
def Refuses (e : Editor) (command : Command) : Prop :=
  (e.takeStatus.2.apply command).1.status = some .capacityReached

/-- The text before a column of the cursor's line. -/
def upTo (e : Editor) (col : Nat) : Text :=
  Text.unlines (e.lines.take e.row) ++ Text.beforeColumn col e.line

/-- The text before the cursor is as long as its offset says. -/
theorem length_upTo (e : Editor) : (e.upTo e.cursor.2).length = e.offset := by
  rw [upTo, List.length_append, offset]

/-- Setting a row puts a line between those above and below it. -/
theorem set_eq {e : Editor} {row : Nat} (h : row < e.document.size) (line : Text) :
    e.lines.set row line = e.lines.take row ++ line :: e.lines.drop (row + 1) := by
  rw [List.set_eq_take_append_cons_drop]
  exact if_pos h

/-- The text around a row. -/
theorem text_eq {e : Editor} {row : Nat} (h : row < e.document.size) :
    e.text = Text.unlines (e.lines.take row) ++
      (e.document.line row ++ Text.below (e.lines.drop (row + 1))) := by
  have lines : e.lines = e.lines.take row ++ e.document.line row :: e.lines.drop (row + 1) :=
    Text.eq_take_append_drop h
  rw [← Text.join_append_cons, ← lines, text]

/-- The text after an edit. -/
theorem text_edit (e : Editor) (above : List Text) (line : Text) (below : List Text)
    (redraw : Redraw) : (e.edit (above ++ line :: below) redraw).text =
      Text.unlines above ++ (line ++ Text.below below) := by
  rw [text, lines_edit e (by simp), Text.join_append_cons]

/-- The text after setting the line of the cursor. -/
theorem text_edit_set {e f : Editor} (h : e.row < e.document.size) (line : Text)
    (redraw : Redraw) : (f.edit (e.lines.set e.row line) redraw).text =
      Text.unlines (e.lines.take e.row) ++ (line ++ Text.below (e.lines.drop (e.row + 1))) := by
  rw [set_eq h, text_edit]

/-- The text behind the cursor begins with the rest of its line. -/
theorem text_eq_upTo {e : Editor} (h : e.row < e.document.size) (col : Nat) :
    e.text = e.upTo col ++
      (Text.fromColumn col e.line ++ Text.below (e.lines.drop (e.row + 1))) := by
  rw [text_eq h, upTo, List.append_assoc, ← List.append_assoc (Text.beforeColumn col e.line),
    Text.beforeColumn_append_fromColumn]
  rfl

/-- Deleting the cluster behind the cursor deletes it from the text. -/
theorem text_eraseCluster {e : Editor} (row : e.row < e.document.size) (col : e.col < e.width) :
    ∃ rest, e.text = e.upTo e.col ++ ((Text.clusters e.line).getD e.col [] ++ rest) ∧
      e.eraseCluster.text = e.upTo e.col ++ rest := by
  refine ⟨Text.fromColumn (e.col + 1) e.line ++ Text.below (e.lines.drop (e.row + 1)), ?_, ?_⟩
  · rw [text_eq_upTo row (e.col + 1), upTo, upTo, Text.beforeColumn_add_one col]
    simp only [List.append_assoc]
  · rw [eraseCluster, text_edit_set row, Text.eraseColumns, upTo]
    simp only [List.append_assoc]

/-- Joining the cursor's line with the next one deletes the line feed between them. -/
theorem text_joinBelow {e : Editor} (row : e.row < e.document.lastRow) :
    ∃ rest, e.text = Text.unlines (e.lines.take e.row) ++ e.line ++ '\n' :: rest ∧
      e.joinBelow.text = Text.unlines (e.lines.take e.row) ++ e.line ++ rest := by
  rw [Document.lastRow] at row
  have next : e.row + 1 < e.document.size := Nat.add_lt_of_lt_sub row
  have here : e.row < e.document.size := Nat.lt_of_succ_lt next
  refine ⟨e.document.line (e.row + 1) ++ Text.below (e.lines.drop (e.row + 2)), ?_, ?_⟩
  · have above : e.lines.take (e.row + 1) = e.lines.take e.row ++ [e.line] :=
      Text.take_add_one here
    rw [text_eq next, above, Text.unlines_concat]
    simp only [List.append_assoc, List.singleton_append]
  · rw [joinBelow, text_edit]
    simp only [List.append_assoc]

/-- The cursor, once it is in its line, is seen where it is. -/
theorem offset_eq {e : Editor} (col : e.col ≤ e.width) : e.offset = (e.upTo e.col).length := by
  have seen : e.cursor.2 = e.col := Nat.min_eq_left col
  rw [← length_upTo, seen]

/-- What becomes of the text behind the cursor is an edit at the cursor. -/
theorem applies_of_upTo {e : Editor} (col : e.col ≤ e.width) {ahead inserted after : Text}
    (rest : Text) (before : e.text = e.upTo e.col ++ (ahead ++ rest))
    (changed : after = e.upTo e.col ++ inserted ++ rest) :
    Splice.Applies { ahead, inserted } e.offset e.text after := by
  refine ⟨e.upTo e.col, rest, ?_, ?_, changed⟩
  · rw [List.append_nil, offset_eq col]
  · rw [List.append_nil, before]

/-- What comes between the text before the cursor and the text behind it is put in there. -/
theorem applies_inserted {e : Editor} (row : e.row < e.document.size) (col : e.col ≤ e.width)
    {inserted after : Text}
    (changed : after = e.upTo e.col ++ inserted ++
      (Text.fromColumn e.col e.line ++ Text.below (e.lines.drop (e.row + 1)))) :
    Splice.Applies { inserted } e.offset e.text after :=
  applies_of_upTo col _ (text_eq_upTo row e.col) changed

/-- Putting in a character puts it into the text. -/
theorem applies_insertChar {e : Editor} (row : e.row < e.document.size) (col : e.col ≤ e.width)
    {c : Char} (room : ¬ e.limits.maxLineLength ≤ e.width) :
    Splice.Applies { inserted := [c] } e.offset e.text (e.insertChar c).text := by
  refine applies_inserted row col ?_
  rw [insertChar, if_neg room, text_edit_set row, Text.insertAtColumn, upTo]
  simp only [List.append_assoc, List.cons_append, List.nil_append]

/-- Breaking a line puts a line feed into the text. -/
theorem applies_breakLine {e : Editor} (row : e.row < e.document.size) (col : e.col ≤ e.width)
    (room : ¬ e.limits.maxLines ≤ e.document.size) :
    Splice.Applies { inserted := ['\n'] } e.offset e.text e.breakLine.text := by
  refine applies_inserted row col ?_
  rw [breakLine, if_neg room, text_edit, Text.below, List.flatMap_cons, upTo]
  simp only [List.append_assoc, List.cons_append, List.nil_append]
  rfl

/-- To leave the text as it is, is an edit that deletes and puts in nothing. -/
theorem applies_nothing {e : Editor} (row : e.row < e.document.size) (col : e.col ≤ e.width) :
    Splice.Applies {} e.offset e.text e.text := by
  refine applies_inserted row col ?_
  rw [List.append_nil]
  exact text_eq_upTo row e.col

/-- The text before the start of a line ends in the line feed above it. -/
theorem upTo_zero {e : Editor} (row : e.row < e.document.size) (pos : 0 < e.row) :
    e.upTo 0 = Text.unlines (e.above.lines.take e.above.row) ++ e.above.line ++ ['\n'] := by
  have prior : e.row - 1 < e.lines.length := Nat.lt_of_le_of_lt (Nat.sub_le _ _) row
  have taken := Text.take_add_one prior
  rw [Nat.sub_add_cancel pos] at taken
  have empty : Text.beforeColumn 0 e.line = [] := rfl
  rw [upTo, taken, Text.unlines_concat, empty, List.append_nil, ← List.append_assoc]
  rfl

/-- Deleting backward deletes from the text what is before the cursor. -/
theorem applies_deleteBack {e : Editor} (row : e.row < e.document.size) (col : e.col ≤ e.width)
    (room : e.col = 0 → 0 < e.row → e.above.JoinFits) :
    Splice.Applies { back := e.clusterBack } e.offset e.text e.deleteBack.1.text := by
  have seen : e.cursor.2 = e.col := Nat.min_eq_left col
  rcases deleteBack_cases e with
    ⟨pos, back⟩ | ⟨start, first, back⟩ | ⟨start, pos, -, back⟩ | ⟨start, pos, full, -⟩
  · have inside : e.col - 1 < e.width := by omega
    have cluster : e.clusterBack = (Text.clusters e.line).getD (e.col - 1) [] := by
      rw [clusterBack, seen, if_pos pos]
    have before : e.upTo e.col = e.upTo (e.col - 1) ++ e.clusterBack := by
      have next := Text.beforeColumn_add_one inside
      rw [Nat.sub_add_cancel pos] at next
      rw [upTo, upTo, next, cluster, List.append_assoc]
    obtain ⟨rest, text, erased⟩ := text_eraseCluster (e := { e with col := e.col - 1 }) row inside
    refine ⟨e.upTo (e.col - 1), rest, ?_, ?_, ?_⟩
    · rw [offset_eq col, before]
    · rw [cluster, List.nil_append, List.append_assoc]
      exact text
    · rw [back, List.append_nil]
      exact erased
  · have nothing : e.clusterBack = [] := by
      rw [clusterBack, seen, start, if_neg (Nat.lt_irrefl 0), first, if_neg (Nat.lt_irrefl 0)]
    rw [nothing, back]
    exact applies_nothing row col
  · have feed : e.clusterBack = ['\n'] := by
      rw [clusterBack, seen, start, if_neg (Nat.lt_irrefl 0), if_pos pos]
    have prior : e.above.row < e.above.document.lastRow := Nat.sub_lt_sub_right pos row
    obtain ⟨rest, text, joined⟩ := text_joinBelow prior
    refine ⟨Text.unlines (e.above.lines.take e.above.row) ++ e.above.line, rest, ?_, ?_, ?_⟩
    · rw [offset_eq col, start, upTo_zero row pos, feed]
    · rw [feed, List.nil_append, List.append_assoc _ ['\n']]
      exact text
    · rw [back, List.append_nil]
      exact joined
  · exact absurd (room start pos) full

/-- At the end of a line, the text before the cursor ends in that line. -/
theorem upTo_of_le {e : Editor} (stop : e.width ≤ e.col) :
    e.upTo e.col = Text.unlines (e.lines.take e.row) ++ e.line := by
  rw [upTo, Text.beforeColumn_of_le stop]

/-- Joining the line that the cursor ends with the next one deletes the line feed ahead. -/
theorem applies_joinBelow {e : Editor} (col : e.col ≤ e.width) (stop : e.width ≤ e.col)
    (next : e.row < e.document.lastRow) :
    Splice.Applies { ahead := ['\n'] } e.offset e.text e.joinBelow.text := by
  obtain ⟨rest, text, joined⟩ := text_joinBelow next
  have start := upTo_of_le stop
  refine applies_of_upTo col rest ?_ ?_
  · rw [start]
    exact text
  · rw [start, List.append_nil]
    exact joined

/-- Deleting forward deletes from the text what is behind the cursor. -/
theorem applies_deleteForward {e : Editor} (row : e.row < e.document.size)
    (col : e.col ≤ e.width)
    (room : e.width ≤ e.col → e.row < e.document.lastRow → e.JoinFits) :
    Splice.Applies { ahead := e.clusterAhead } e.offset e.text e.deleteForward.1.text := by
  have seen : e.cursor.2 = e.col := Nat.min_eq_left col
  rcases deleteForward_cases e with
    ⟨inside, done⟩ | ⟨stop, last, done⟩ | ⟨stop, next, -, done⟩ | ⟨stop, next, full, -⟩
  · have cluster : e.clusterAhead = (Text.clusters e.line).getD e.col [] := by
      rw [clusterAhead, seen, if_pos inside]
    obtain ⟨rest, text, erased⟩ := text_eraseCluster row inside
    rw [cluster, done]
    refine applies_of_upTo col rest text ?_
    rw [List.append_nil, erased]
  · have nothing : e.clusterAhead = [] := by
      rw [clusterAhead, seen, if_neg (Nat.not_lt.mpr stop), if_neg (Nat.not_lt.mpr last)]
    rw [nothing, done]
    exact applies_nothing row col
  · have feed : e.clusterAhead = ['\n'] := by
      rw [clusterAhead, seen, if_neg (Nat.not_lt.mpr stop), if_pos next]
    rw [feed, done]
    exact applies_joinBelow col stop next
  · exact absurd (room stop next) full

/-- Killing deletes from the text what is left of the line. -/
theorem applies_killLine {e : Editor} (row : e.row < e.document.size) (col : e.col ≤ e.width)
    (room : e.width ≤ e.col → e.row < e.document.lastRow → e.JoinFits) :
    Splice.Applies { ahead := e.restAhead } e.offset e.text e.killLine.text := by
  have seen : e.cursor.2 = e.col := Nat.min_eq_left col
  cases Nat.lt_or_ge e.col e.width with
  | inl inside =>
    have killed : e.restAhead = Text.fromColumn e.col e.line := by
      rw [restAhead, seen, if_pos inside]
    rw [killed, killLine_of_lt inside]
    refine applies_of_upTo col _ (text_eq_upTo row e.col) ?_
    rw [text_edit_set row, upTo]
    simp only [List.append_assoc, List.nil_append]
  | inr stop =>
    have same : e.restAhead = e.clusterAhead := by
      rw [restAhead, clusterAhead, seen, if_neg (Nat.not_lt.mpr stop), if_neg (Nat.not_lt.mpr stop)]
    obtain ⟨yank, done⟩ := killLine_of_le stop
    rw [same, done]
    exact applies_deleteForward row col room

/-- Text put behind the last piece stands behind the joined pieces. -/
theorem join_extendLast {pieces : List Text} (h : pieces ≠ []) (text : Text)
    (lines : List Text) :
    Text.join (Yank.extendLast text pieces ++ lines) =
      Text.join pieces ++ (text ++ Text.below lines) := by
  induction pieces with
  | nil => contradiction
  | cons first rest ih =>
    cases rest with
    | nil =>
      rw [Yank.extendLast, List.singleton_append, Text.join_cons, Text.join_singleton,
        List.append_assoc]
    | cons next rest =>
      have nonempty : next :: rest ≠ [] := List.cons_ne_nil next rest
      have more : Yank.extendLast text (next :: rest) ++ lines ≠ [] := by
        refine List.append_ne_nil_of_left_ne_nil (List.ne_nil_of_length_pos ?_) _
        rw [length_extendLast nonempty]
        exact Nat.succ_pos _
      rw [Yank.extendLast, List.cons_append, Text.join_cons, Text.below_of_ne_nil more, ih nonempty,
        Text.join_cons first, Text.below_of_ne_nil nonempty]
      simp only [List.append_assoc, List.cons_append]

/-- Text put before the first piece stands before the joined pieces. -/
theorem join_prependFirst {pieces : List Text} (h : pieces ≠ []) (text : Text) :
    Text.join (prependFirst text pieces) = text ++ Text.join pieces := by
  obtain ⟨first, rest, rfl⟩ := List.exists_cons_of_ne_nil h
  rw [prependFirst, Text.join_cons, Text.join_cons, List.append_assoc]

/-- The pieces of a yank buffer are its text. -/
theorem join_pieces {yank : Yank} (h : yank.segments ≠ []) :
    Text.join (pieces yank) = yank.text := by
  rw [Yank.text, if_neg fun empty => h (List.isEmpty_iff.mp empty), pieces]
  split
  · rw [Text.join_append _ (List.cons_ne_nil [] []), Text.unlines_of_ne_nil h,
      Text.join_singleton, List.append_nil]
  · rw [List.append_nil, List.append_nil]

/-- Putting in pieces puts their text into the text. -/
theorem applies_splicePieces {e : Editor} (row : e.row < e.document.size) (col : e.col ≤ e.width)
    {pieces : List Text} (h : pieces ≠ []) :
    Splice.Applies { inserted := Text.join pieces } e.offset e.text
      (e.splicePieces pieces).text := by
  have begun : prependFirst (Text.beforeColumn e.col e.line) pieces ≠ [] := by
    refine List.ne_nil_of_length_pos ?_
    rw [length_prependFirst h]
    exact List.length_pos_iff.mpr h
  have ended : Yank.extendLast (Text.fromColumn e.col e.line)
      (prependFirst (Text.beforeColumn e.col e.line) pieces) ≠ [] := by
    refine List.ne_nil_of_length_pos ?_
    rw [length_extendLast begun]
    exact List.length_pos_iff.mpr begun
  have more := List.append_ne_nil_of_left_ne_nil ended (e.lines.drop (e.row + 1))
  refine applies_inserted row col ?_
  rw [splicePieces, text, List.append_assoc,
    lines_edit _ (List.append_ne_nil_of_right_ne_nil _ more), Text.join_append _ more,
    join_extendLast begun, join_prependFirst h, upTo]
  simp only [List.append_assoc]

/-- Pasting puts the text of the yank buffer into the text. -/
theorem applies_paste {e : Editor} (row : e.row < e.document.size) (col : e.col ≤ e.width)
    (room : e.yank.segments ≠ [] → e.PasteFits) :
    Splice.Applies { inserted := e.yank.text } e.offset e.text e.paste.text := by
  rcases paste_cases e with ⟨empty, done⟩ | ⟨filled, -, done⟩ | ⟨filled, full, -⟩
  · have empty : e.yank.text = [] := by
      rw [Yank.text, empty]
      rfl
    rw [empty, done]
    exact applies_nothing row col
  · rw [done, ← join_pieces filled]
    exact applies_splicePieces row col (pieces_ne_nil filled)
  · exact absurd (room filled) full

/-- What a command that is not refused does to the text, once the cursor is in its line. -/
theorem applies_run {e : Editor} (row : e.row < e.document.size) (col : e.col ≤ e.width)
    {command : Command} {s : Splice} (splice : e.splice? command = some s)
    (accepted : (e.takeStatus.2.run command).status ≠ some .capacityReached) :
    s.Applies e.offset e.text (e.run command).text := by
  cases command with
  | insertChar c =>
    obtain rfl := Option.some.inj splice
    refine applies_insertChar row col fun full => accepted ?_
    exact congrArg status (if_pos full)
  | breakLine =>
    obtain rfl := Option.some.inj splice
    refine applies_breakLine row col fun full => accepted ?_
    exact congrArg status (if_pos full)
  | paste =>
    obtain rfl := Option.some.inj splice
    refine applies_paste row col fun filled => Classical.byContradiction fun full => accepted ?_
    exact congrArg status (paste_of_full (e := e.takeStatus.2) filled full)
  | backspace =>
    obtain rfl := Option.some.inj splice
    refine applies_deleteBack row col fun start pos =>
      Classical.byContradiction fun full => accepted ?_
    have refused := deleteBack_of_full (e := e.takeStatus.2) start pos full
    exact congrArg (fun done => done.1.status) refused
  | deleteChar =>
    obtain rfl := Option.some.inj splice
    refine applies_deleteForward row col fun stop next =>
      Classical.byContradiction fun full => accepted ?_
    have refused := deleteForward_of_full (e := e.takeStatus.2) stop next full
    exact congrArg (fun done => done.1.status) refused
  | killLine =>
    obtain rfl := Option.some.inj splice
    refine applies_killLine row col fun stop next =>
      Classical.byContradiction fun full => accepted ?_
    exact congrArg status (killLine_of_full (e := e.takeStatus.2) stop next full)
  | _ => contradiction

/-- Only commands that edit text do something to the text at the cursor. -/
theorem keepsColumn_of_splice? {e : Editor} {command : Command} {s : Splice}
    (h : e.splice? command = some s) : command.keepsColumn = false := by
  cases command with
  | move motion => contradiction
  | _ => rfl

/-- What comes before a command changes neither the text nor the place in it. -/
theorem text_prepare (e : Editor) (command : Command) :
    (e.prepare command).text = e.text ∧ (e.prepare command).offset = e.offset := by
  constructor
  · rw [prepare_eq]
    rfl
  · rw [offset, cursor_prepare, prepare_eq]
    rfl

/-- What comes before a command changes nothing about what it would delete. -/
theorem deleted_prepare (e : Editor) (command : Command) :
    (e.prepare command).clusterBack = e.clusterBack ∧
      (e.prepare command).clusterAhead = e.clusterAhead ∧
      (e.prepare command).restAhead = e.restAhead := by
  unfold clusterBack clusterAhead restAhead
  rw [cursor_prepare, prepare_eq]
  exact ⟨rfl, rfl, rfl⟩

/-- What comes before a command changes nothing about what it does to the text. -/
theorem splice?_prepare (e : Editor) (command : Command) :
    (e.prepare command).splice? command = e.splice? command := by
  obtain ⟨back, ahead, rest⟩ := e.deleted_prepare command
  cases command with
  | paste =>
    have yank : (e.prepare .paste).yank = e.yank := by
      rw [prepare_eq]
      rfl
    exact congrArg (fun yank => some (Splice.mk [] [] yank.text)) yank
  | backspace => exact congrArg (fun text => some (Splice.mk text [] [])) back
  | deleteChar => exact congrArg (fun text => some (Splice.mk [] text [])) ahead
  | killLine => exact congrArg (fun text => some (Splice.mk [] text [])) rest
  | _ => rfl

/-- Every command that types, pastes or deletes, unless it is refused, does to the text of the
editor what it says: at the cursor some text goes, some text comes, and the rest stays. -/
theorem applies_apply {e : Editor} (h : Reachable e) {command : Command} {s : Splice}
    (splice : e.splice? command = some s) (accepted : ¬ e.Refuses command) :
    s.Applies e.offset e.text (e.apply command).1.text := by
  obtain ⟨text, offset⟩ := e.text_prepare command
  have row : (e.prepare command).row < (e.prepare command).document.size := by
    rw [prepare_eq]
    exact h.wellFormed.row_lt
  have col : (e.prepare command).col ≤ (e.prepare command).width := by
    rw [prepare_eq]
    change (if command.keepsColumn then e.col else e.cursor.2) ≤ e.width
    rw [keepsColumn_of_splice? splice, if_neg Bool.false_ne_true]
    exact Nat.min_le_right _ _
  rw [← splice?_prepare] at splice
  have applied := applies_run row col splice fun refused => accepted ?_
  · rw [offset, text] at applied
    rw [apply_eq]
    exact applied
  · rw [Refuses, apply_eq, prepare_eq]
    rw [prepare_eq] at refused
    exact refused

/-- An editor over two rules, with the cursor at the end of the first. -/
def endOfFirst : Editor :=
  ((start ["rings".toList, "boots".toList] {} {}).apply (.move .lineEnd)).1

/-- Deleting forward at the end of the first of two lines deletes the line feed between them. -/
theorem applies_apply_endOfFirst :
    endOfFirst.Reachable ∧ endOfFirst.splice? .deleteChar = some { ahead := ['\n'] } ∧
      ¬ endOfFirst.Refuses .deleteChar ∧
      Splice.Applies { ahead := ['\n'] } endOfFirst.offset endOfFirst.text
        (endOfFirst.apply .deleteChar).1.text := by
  have reached : endOfFirst.Reachable := .apply _ (.start _ _ _)
  have feed : endOfFirst.splice? .deleteChar = some { ahead := ['\n'] } := by decide +kernel
  have accepted : ¬ endOfFirst.Refuses .deleteChar := by
    rw [Refuses]
    decide +kernel
  exact ⟨reached, feed, accepted, applies_apply reached feed accepted⟩

end Editor

end LootRules
