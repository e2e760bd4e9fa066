import LootRules.Proofs.Editor.Commands

/-!
# The editors that can be reached

An editor starts over some lines and then carries out commands, between which it may be told
what was saved or destroyed and asked what to draw and what to say. In every editor reached
so, the rows of the cursor and of the mark are rows of the document.

The mark is the delicate half. Commands that take rows away clear it first, except cutting,
which clears it along the way and needs its row to know which rows to take.
-/

namespace LootRules.Editor

/-- The editors that players meet. -/
inductive Reachable : Editor → Prop where
  | start (lines : List Text) (player : Player) (limits : Limits) :
      Reachable (start lines player limits)
  | apply {e : Editor} (command : Command) : Reachable e → Reachable (e.apply command).1
  | markSaved {e : Editor} : Reachable e → Reachable e.markSaved
  | setLastDestroyed {e : Editor} (item : Item) :
      Reachable e → Reachable (e.setLastDestroyed item)
  | takeRedraw {e : Editor} : Reachable e → Reachable e.takeRedraw.2
  | takeStatus {e : Editor} : Reachable e → Reachable e.takeStatus.2

/-- The rows of the cursor and of the mark are rows of the document. -/
structure WellFormed (e : Editor) : Prop where
  row_lt : e.row < e.document.size
  mark_lt : ∀ m ∈ e.mark, m.1 < e.document.size

/-- The documents that are made from lines have these lines, if there are any. -/
theorem lines_ofLines {player : Player} {lines : List Text} (h : lines ≠ []) :
    (Document.ofLines player lines).lines = lines := by
  rw [Document.ofLines, if_neg (List.isEmpty_eq_false_iff.mpr h ▸ Bool.false_ne_true)]

/-- Editing puts in the new lines. -/
theorem lines_edit (e : Editor) {lines : List Text} (h : lines ≠ []) (redraw : Redraw) :
    (e.edit lines redraw).lines = lines :=
  lines_ofLines h

/-- After an edit the cursor and the mark are where they were, which has to be in the new
lines. -/
theorem wellFormed_edit {e : Editor} {lines : List Text} {redraw : Redraw}
    (row : e.row < lines.length) (mark : ∀ m ∈ e.mark, m.1 < lines.length) :
    (e.edit lines redraw).WellFormed := by
  have size : (e.edit lines redraw).document.size = lines.length :=
    congrArg List.length (lines_edit e (List.ne_nil_of_length_pos (Nat.zero_lt_of_lt row)) redraw)
  constructor
  · rw [size]
    exact row
  · intro m hm
    rw [size]
    exact mark m hm

/-- Without a mark only the cursor has to be in the new lines. -/
theorem wellFormed_edit_of_none {e : Editor} {lines : List Text} {redraw : Redraw}
    (mark : e.mark = none) (row : e.row < lines.length) : (e.edit lines redraw).WellFormed := by
  refine wellFormed_edit row fun m hm => ?_
  rw [mark] at hm
  contradiction

/-- A row below the cursor is a row of the document, which does not get shorter. -/
theorem withRowBelow?_eq_some {e e' : Editor} (h : e.withRowBelow? = some e')
    (row : e.row < e.document.size) :
    e'.row = e.row ∧ e'.mark = e.mark ∧ e.document.size ≤ e'.document.size ∧
      e.row + 1 < e'.document.size := by
  unfold withRowBelow? at h
  split at h
  · next above =>
    obtain rfl := Option.some.inj h
    rw [Document.lastRow] at above
    exact ⟨rfl, rfl, Nat.le_refl _, by omega⟩
  · split at h
    · contradiction
    · next last _ =>
      obtain rfl := Option.some.inj h
      have size : (Document.ofLines e.player (e.lines ++ [[]])).size = e.document.size + 1 := by
        rw [Document.size, lines_ofLines (by simp), List.length_append]
        rfl
      refine ⟨rfl, rfl, ?_, ?_⟩
      · exact size ▸ Nat.le_succ _
      · change _ < (Document.ofLines e.player (e.lines ++ [[]])).size
        rw [size]
        omega

/-- Motions stay in the document. -/
theorem wellFormed_move {e : Editor} (h : e.WellFormed) (motion : Motion) :
    (e.move motion).WellFormed := by
  have row := h.row_lt
  cases motion with
  | left =>
    rw [move]
    split
    · exact ⟨row, h.mark_lt⟩
    · split
      · exact ⟨Nat.lt_of_le_of_lt (Nat.sub_le _ _) row, h.mark_lt⟩
      · exact h
  | right =>
    rw [move]
    split
    · exact ⟨row, h.mark_lt⟩
    · split
      · next below =>
        obtain ⟨same, mark, size, next⟩ := withRowBelow?_eq_some below row
        refine ⟨same ▸ next, fun m hm => Nat.lt_of_lt_of_le (h.mark_lt m ?_) size⟩
        rw [← mark]
        exact hm
      · exact h
  | up => exact ⟨Nat.lt_of_le_of_lt (Nat.sub_le _ _) row, h.mark_lt⟩
  | down =>
    rw [move]
    split
    · next below =>
      obtain ⟨same, mark, size, next⟩ := withRowBelow?_eq_some below row
      refine ⟨same ▸ next, fun m hm => Nat.lt_of_lt_of_le (h.mark_lt m ?_) size⟩
      rw [← mark]
      exact hm
    · exact h
  | lineStart | lineEnd => exact ⟨row, h.mark_lt⟩
  | pageUp => exact ⟨Nat.lt_of_le_of_lt (Nat.sub_le _ _) row, h.mark_lt⟩
  | pageDown =>
    refine ⟨Nat.lt_of_le_of_lt (Nat.min_le_right _ _) ?_, h.mark_lt⟩
    exact Nat.sub_lt (Nat.zero_lt_of_lt row) Nat.one_pos
  | top => exact ⟨Nat.zero_lt_of_lt row, h.mark_lt⟩
  | bottom => exact ⟨Nat.sub_lt (Nat.zero_lt_of_lt row) Nat.one_pos, h.mark_lt⟩

/-- As many lines as before leave the rows as they are. -/
theorem wellFormed_edit_of_length {e : Editor} {lines : List Text} {redraw : Redraw}
    (h : e.WellFormed) (size : lines.length = e.document.size) :
    (e.edit lines redraw).WellFormed := by
  refine wellFormed_edit ?_ fun m hm => ?_
  · rw [size]
    exact h.row_lt
  · rw [size]
    exact h.mark_lt m hm

/-- Joining two rows leaves the cursor in the first of them. -/
theorem wellFormed_joinBelow {e : Editor} (row : e.row < e.document.size) (mark : e.mark = none) :
    e.joinBelow.WellFormed := by
  refine wellFormed_edit_of_none mark ?_
  rw [Document.size] at row
  simp only [List.length_append, List.length_take, List.length_cons, lines]
  omega

/-- Deleting backward stays in the document. -/
theorem wellFormed_deleteBack {e : Editor} (h : e.WellFormed) (mark : e.mark = none) :
    e.deleteBack.1.WellFormed := by
  rcases deleteBack_cases e with
    ⟨-, back⟩ | ⟨-, -, back⟩ | ⟨-, -, -, back⟩ | ⟨-, -, -, back⟩
  · rw [back]
    exact wellFormed_edit_of_length ⟨h.row_lt, h.mark_lt⟩ List.length_set
  · rw [back]
    exact h
  · rw [back]
    exact wellFormed_joinBelow (Nat.lt_of_le_of_lt (Nat.sub_le _ _) h.row_lt) mark
  · rw [back]
    exact ⟨h.row_lt, h.mark_lt⟩

/-- Deleting forward stays in the document. -/
theorem wellFormed_deleteForward {e : Editor} (h : e.WellFormed) (mark : e.mark = none) :
    e.deleteForward.1.WellFormed := by
  rcases deleteForward_cases e with
    ⟨-, done⟩ | ⟨-, -, done⟩ | ⟨-, -, -, done⟩ | ⟨-, -, -, done⟩
  · rw [done]
    exact wellFormed_edit_of_length ⟨h.row_lt, h.mark_lt⟩ List.length_set
  · rw [done]
    exact h
  · rw [done]
    exact wellFormed_joinBelow h.row_lt mark
  · rw [done]
    exact ⟨h.row_lt, h.mark_lt⟩

/-- Killing stays in the document. -/
theorem wellFormed_killLine {e : Editor} (h : e.WellFormed) (mark : e.mark = none) :
    e.killLine.WellFormed := by
  cases Nat.lt_or_ge e.col e.width with
  | inl inside =>
    rw [killLine_of_lt inside]
    exact wellFormed_edit_of_length ⟨h.row_lt, h.mark_lt⟩ List.length_set
  | inr stop =>
    obtain ⟨yank, done⟩ := killLine_of_le stop
    have deleted := wellFormed_deleteForward h mark
    rw [done]
    exact ⟨deleted.row_lt, deleted.mark_lt⟩

/-- Putting in a character stays in the document. -/
theorem wellFormed_insertChar {e : Editor} (h : e.WellFormed) (c : Char) :
    (e.insertChar c).WellFormed := by
  rw [insertChar]
  split
  · exact ⟨h.row_lt, h.mark_lt⟩
  · exact wellFormed_edit_of_length ⟨h.row_lt, h.mark_lt⟩ List.length_set

/-- Breaking a line stays in the document. -/
theorem wellFormed_breakLine {e : Editor} (h : e.WellFormed) (mark : e.mark = none) :
    e.breakLine.WellFormed := by
  have row := h.row_lt
  rw [breakLine]
  split
  · exact ⟨row, h.mark_lt⟩
  · refine wellFormed_edit_of_none mark ?_
    rw [Document.size] at row
    simp only [List.length_append, List.length_take, List.length_cons, lines]
    omega

/-- Putting in lines stays in the document. -/
theorem wellFormed_insertLines {e : Editor} (h : e.WellFormed) (mark : e.mark = none)
    {lines : List Text} {row : Nat} (inside : row ≤ lines.length) (col : Nat) :
    (e.insertLines lines row col).WellFormed := by
  have first := h.row_lt
  rw [insertLines]
  split
  · exact ⟨first, h.mark_lt⟩
  · refine wellFormed_edit_of_none mark ?_
    rw [Document.size] at first
    simp only [List.length_append, List.length_take, List.length_drop, Editor.lines]
    omega

/-- Text put behind the last piece makes no new piece. -/
theorem length_extendLast {pieces : List Text} (h : pieces ≠ []) (text : Text) :
    (Yank.extendLast text pieces).length = pieces.length := by
  induction pieces with
  | nil => contradiction
  | cons first rest ih =>
    cases rest with
    | nil => rfl
    | cons next rest =>
      rw [Yank.extendLast, List.length_cons, ih (List.cons_ne_nil next rest)]
      rfl

/-- Text put before the first piece makes no new piece. -/
theorem length_prependFirst {pieces : List Text} (h : pieces ≠ []) (text : Text) :
    (prependFirst text pieces).length = pieces.length := by
  cases pieces with
  | nil => contradiction
  | cons first rest => rfl

/-- A buffer that is not empty is pasted as one piece at least. -/
theorem pieces_ne_nil {yank : Yank} (h : yank.segments ≠ []) : pieces yank ≠ [] :=
  List.append_ne_nil_of_left_ne_nil h _

/-- Pasting stays in the document. -/
theorem wellFormed_paste {e : Editor} (h : e.WellFormed) (mark : e.mark = none) :
    e.paste.WellFormed := by
  have row := h.row_lt
  rcases paste_cases e with ⟨-, done⟩ | ⟨filled, -, done⟩ | ⟨-, -, done⟩
  · rw [done]
    exact h
  · rw [done]
    have begun : prependFirst (Text.beforeColumn e.col e.line) (pieces e.yank) ≠ [] := by
      refine List.ne_nil_of_length_pos ?_
      rw [length_prependFirst (pieces_ne_nil filled)]
      exact List.length_pos_iff.mpr (pieces_ne_nil filled)
    have pos := List.length_pos_iff.mpr (pieces_ne_nil filled)
    refine wellFormed_edit_of_none mark ?_
    rw [Document.size] at row
    simp only [List.length_append, List.length_take, List.length_drop, lines,
      length_extendLast begun, length_prependFirst (pieces_ne_nil filled)]
    omega
  · rw [done]
    exact ⟨row, h.mark_lt⟩

/-- Toggling a part of the action stays in the document. -/
theorem wellFormed_toggleAction {e : Editor} (h : e.WellFormed) (mask : Action) :
    (e.toggleAction mask).WellFormed := by
  rw [toggleAction]
  split
  · exact h
  · split
    · exact h
    · exact wellFormed_edit_of_length ⟨h.row_lt, h.mark_lt⟩ List.length_set

/-- Toggling a flag on lines makes as many lines. -/
theorem length_toggleLines (f : Flag) (adding : Option Bool) (lines : List Text) :
    (toggleLines f adding lines).2.length = lines.length := by
  induction lines generalizing adding with
  | nil => rfl
  | cons line lines ih =>
    rw [toggleLines]
    split
    · exact congrArg (· + 1) (ih adding)
    · exact congrArg (· + 1) (ih _)

/-- Once it is decided what toggling does, it stays so. -/
theorem toggleLines_some (f : Flag) (add : Bool) (lines : List Text) :
    (toggleLines f (some add) lines).1 = some add := by
  induction lines with
  | nil => rfl
  | cons line lines ih =>
    rw [toggleLines]
    split <;> exact ih

/-- Without a decision, toggling has left all lines alone. -/
theorem toggleLines_of_none {f : Flag} {lines : List Text}
    (h : (toggleLines f none lines).1 = none) : (toggleLines f none lines).2 = lines := by
  induction lines with
  | nil => rfl
  | cons line lines ih =>
    rw [toggleLines] at h ⊢
    cases parsed : Rule.parse line (none : Option Bool).isNone with
    | none =>
      rw [parsed] at h
      exact congrArg (line :: ·) (ih h)
    | some rule =>
      rw [parsed] at h
      have decided := toggleLines_some f (Option.getD none !rule.flags.contains f) lines
      exact absurd (decided.symm.trans h) (Option.some_ne_none _)

/-- The rows between mark and cursor are rows of the document, the first before the last. -/
theorem blockRows_bound {e : Editor} (h : e.WellFormed) :
    e.blockRows.1 ≤ e.blockRows.2 ∧ e.blockRows.2 < e.document.size := by
  have row := h.row_lt
  rw [blockRows]
  split
  · exact ⟨Nat.le_refl _, row⟩
  · next other col mark =>
    have bound := h.mark_lt (other, col) mark
    exact ⟨by simp only; omega, Nat.max_lt.mpr ⟨bound, row⟩⟩

/-- Toggling a flag stays in the document. -/
theorem wellFormed_toggleKeyword {e : Editor} (h : e.WellFormed) (f : Flag) :
    (e.toggleKeyword f).WellFormed := by
  obtain ⟨order, bound⟩ := blockRows_bound h
  rw [toggleKeyword]
  split
  next first last rows =>
  rw [rows] at order bound
  split
  · exact h
  · next done toggled =>
    have length := length_toggleLines f none ((e.lines.drop first).take (last + 1 - first))
    rw [toggled] at length
    refine wellFormed_edit_of_length h ?_
    rw [Document.size] at bound ⊢
    simp only [List.length_append, List.length_take, List.length_drop, lines] at length ⊢
    simp only at order bound
    omega

/-- The region of whole rows has the cursor in it and lies in the document. -/
theorem bound_of_region_rows {e : Editor} (h : e.WellFormed) {first last : Nat}
    (region : e.region = .rows first last) :
    first ≤ e.row ∧ e.row ≤ last ∧ last < e.document.size := by
  have row := h.row_lt
  unfold Editor.region at region
  split at region
  · obtain ⟨rfl, rfl⟩ := Region.rows.inj region
    exact ⟨Nat.le_refl _, Nat.le_refl _, row⟩
  · next other col mark =>
    have bound := h.mark_lt (other, col) mark
    split at region
    · obtain ⟨rfl, rfl⟩ := Region.rows.inj region
      exact ⟨Nat.min_le_right _ _, Nat.le_max_right _ _, Nat.max_lt.mpr ⟨bound, row⟩⟩
    · dsimp only at region
      split at region
      · obtain ⟨rfl, rfl⟩ := Region.rows.inj region
        exact ⟨Nat.le_refl _, Nat.le_refl _, row⟩
      · contradiction

/-- A region within a row lies between the columns of mark and cursor, as far as the line goes. -/
theorem exists_of_region_span {e : Editor} {row first last : Nat}
    (region : e.region = .span row first last) :
    ∃ other, row = e.row ∧ first = min other e.col ∧ last = min (max other e.col) e.width := by
  unfold Editor.region at region
  split at region
  · contradiction
  · next _ other _ =>
    split at region
    · contradiction
    · dsimp only at region
      split at region
      · contradiction
      · obtain ⟨rfl, rfl, rfl⟩ := Region.span.inj region
        exact ⟨other, rfl, rfl, rfl⟩

/-- The lines that whole rows leave from their place on: those below them, or an empty line. -/
def remaining (e : Editor) (last : Nat) : List Text :=
  if last = e.document.lastRow then [[]] else e.lines.drop (last + 1)

/-- Something remains. -/
theorem remaining_ne_nil {e : Editor} {last : Nat} (bound : last < e.document.size) :
    e.remaining last ≠ [] := by
  rw [remaining]
  split
  · exact List.cons_ne_nil _ _
  · next notLast =>
    rw [Document.lastRow] at notLast
    refine List.ne_nil_of_length_pos ?_
    rw [List.length_drop]
    change 0 < e.document.size - (last + 1)
    omega

/-- Cutting stays in the document. -/
theorem wellFormed_cut {e : Editor} (h : e.WellFormed) : e.cut.WellFormed := by
  rw [cut]
  split
  · next first last region =>
    obtain ⟨before, after, bound⟩ := bound_of_region_rows h region
    refine wellFormed_edit_of_none rfl ?_
    change first < (e.lines.take first ++ e.remaining last).length
    have inside : first ≤ e.lines.length := Nat.le_trans before (Nat.le_of_lt h.row_lt)
    rw [List.length_append, List.length_take_of_le inside]
    exact Nat.lt_add_of_pos_right (List.length_pos_iff.mpr (remaining_ne_nil bound))
  · refine wellFormed_edit_of_none rfl ?_
    rw [List.length_set]
    exact h.row_lt

/-- A search ends in one of the rows it went through. -/
theorem mem_of_searchRows {target : SearchTarget} {rows : List (Nat × Text × LineState)}
    {skipped : Option (Nat × Nat)} {position : Nat × Nat}
    (h : (Document.searchRows target skipped rows).position? = some position) :
    position.1 ∈ rows.map (·.1) ∨ skipped = some position := by
  -- A hit on a line that is switched off is put aside, and is the result if there is no other.
  induction rows generalizing skipped with
  | nil =>
    cases skipped with
    | none => contradiction
    | some found => exact .inr h
  | cons entry rows ih =>
    obtain ⟨row, line, state⟩ := entry
    have later : position.1 ∈ rows.map (·.1) → position.1 ∈ row :: rows.map (·.1) :=
      List.mem_cons_of_mem row
    rw [Document.searchRows] at h
    rw [List.map_cons]
    split at h
    · exact (ih h).imp_left later
    · next col hit =>
      split at h
      · rcases ih h with mem | found
        · exact .inl (later mem)
        · cases skipped with
          | none => exact .inl (Option.some.inj found ▸ List.mem_cons_self)
          | some found' => exact .inr found
      · split at h <;> exact .inl (Option.some.inj h ▸ List.mem_cons_self)

/-- The rows of a document are rows of it. -/
theorem lt_of_mem_rows {d : Document} {row : Nat} (h : row ∈ d.rows.map (·.1)) : row < d.size := by
  obtain ⟨entry, listed, rfl⟩ := List.mem_map.mp h
  obtain ⟨⟨pair, index⟩, numbered, rfl⟩ := List.mem_map.mp listed
  have bound := (List.mem_zipIdx numbered).2.1
  rw [Nat.zero_add, List.length_zip] at bound
  exact Nat.lt_of_lt_of_le bound (Nat.min_le_left _ _)

/-- Searching stays in the document. -/
theorem wellFormed_search {e : Editor} (h : e.WellFormed) (forward : Bool) :
    (e.search forward).WellFormed := by
  rw [search]
  split
  · exact ⟨h.row_lt, h.mark_lt⟩
  · next target _ =>
    refine ⟨?_, h.mark_lt⟩
    change ((e.document.search target forward e.row).position?.getD (e.row, e.col)).1 < _
    cases found : (e.document.search target forward e.row).position? with
    | none => exact h.row_lt
    | some position =>
      rw [Document.search] at found
      rcases mem_of_searchRows found with mem | absent
      · refine lt_of_mem_rows ?_
        rw [Option.getD_some]
        obtain ⟨entry, mem, same⟩ := List.mem_map.mp mem
        refine List.mem_map.mpr ⟨entry, ?_, same⟩
        split at mem
        · exact List.mem_of_mem_drop mem
        · exact List.mem_of_mem_take (List.mem_reverse.mp mem)
      · contradiction

/-- Starting a search stays in the document. -/
theorem wellFormed_searchFor {e : Editor} (h : e.WellFormed) (target : Option SearchTarget) :
    (e.searchFor target).WellFormed := by
  have aimed : WellFormed { e with target } := ⟨h.row_lt, h.mark_lt⟩
  exact wellFormed_search aimed true

/-- What is done with the item destroyed last stays in the document if it does for each item. -/
theorem wellFormed_withDestroyed {e : Editor} (h : e.WellFormed) {act : Editor → Item → Editor}
    (each : ∀ item, (act e item).WellFormed) : (e.withDestroyed act).WellFormed := by
  rw [withDestroyed]
  split
  · exact each _
  · exact ⟨h.row_lt, h.mark_lt⟩

/-- Every document has a row. -/
theorem size_ofLines_pos (player : Player) (lines : List Text) :
    0 < (Document.ofLines player lines).size :=
  List.length_pos_iff.mpr (Document.ofLines_lines_ne_nil player lines)

/-- Commands stay in the document, if those that edit text come without a mark. -/
theorem wellFormed_run {e : Editor} (h : e.WellFormed) {command : Command}
    (mark : command.clearsMark → e.mark = none) : (e.run command).WellFormed := by
  cases command with
  | quitDiscard | quitSave | help => exact h
  | revert => exact ⟨size_ofLines_pos _ _, nofun⟩
  | move motion => exact wellFormed_move h motion
  | cut => exact wellFormed_cut h
  | copy => exact ⟨h.row_lt, nofun⟩
  | paste => exact wellFormed_paste h (mark rfl)
  | toggleMark =>
    rw [run, toggleMark]
    split
    · exact ⟨h.row_lt, nofun⟩
    · refine ⟨h.row_lt, fun m hm => ?_⟩
      rw [← Option.some.inj hm]
      exact h.row_lt
  | killLine => exact wellFormed_killLine h (mark rfl)
  | deleteChar => exact wellFormed_deleteForward h (mark rfl)
  | backspace => exact wellFormed_deleteBack h (mark rfl)
  | breakLine => exact wellFormed_breakLine h (mark rfl)
  | insertChar c => exact wellFormed_insertChar h c
  | searchText needle => exact wellFormed_searchFor h _
  | searchForward | searchBackward => exact wellFormed_search h _
  | searchItem item => exact wellFormed_searchFor h _
  | searchDestroyed =>
    rw [run]
    exact wellFormed_withDestroyed h fun item => wellFormed_searchFor h _
  | insertItem item => exact wellFormed_insertLines h (mark rfl) (Nat.zero_le _) 0
  | insertDestroyed =>
    rw [run]
    exact wellFormed_withDestroyed h fun item =>
      wellFormed_insertLines h (mark rfl) (Nat.zero_le _) 0
  | insertConditional => exact wellFormed_insertLines h (mark rfl) (by simp) 0
  | insertMacro trigger action => exact wellFormed_insertLines h (mark rfl) (by simp) 2
  | insertKeymap mode key action => exact wellFormed_insertLines h (mark rfl) (by simp) 2
  | toggleAction mask => exact wellFormed_toggleAction h mask
  | toggleKeyword flag => exact wellFormed_toggleKeyword h flag

/-- What comes before a command leaves the rows where they are. -/
theorem wellFormed_prepare {e : Editor} (h : e.WellFormed) (command : Command) :
    (e.prepare command).WellFormed := by
  rw [prepare_eq]
  refine ⟨h.row_lt, fun m hm => h.mark_lt m ?_⟩
  dsimp only at hm
  split at hm
  · contradiction
  · exact hm

/-- Before a command that edits text, the mark goes. -/
theorem mark_prepare (e : Editor) {command : Command} (clears : command.clearsMark) :
    (e.prepare command).mark = none := by
  rw [prepare_eq]
  exact if_pos clears

/-- Every command leaves the rows in the document. -/
theorem wellFormed_apply {e : Editor} (h : e.WellFormed) (command : Command) :
    (e.apply command).1.WellFormed := by
  have after := wellFormed_run (wellFormed_prepare h command) (mark_prepare e)
  rw [apply_eq]
  exact ⟨after.row_lt, after.mark_lt⟩

/-- In every editor that can be reached, the rows are in the document. -/
theorem Reachable.wellFormed {e : Editor} (h : Reachable e) : e.WellFormed := by
  induction h with
  | start lines player limits => exact ⟨size_ofLines_pos _ _, nofun⟩
  | apply command _ ih => exact wellFormed_apply ih command
  | markSaved _ ih => exact ⟨ih.row_lt, ih.mark_lt⟩
  | setLastDestroyed item _ ih => exact ⟨ih.row_lt, ih.mark_lt⟩
  | takeRedraw _ ih => exact ⟨ih.row_lt, ih.mark_lt⟩
  | takeStatus _ ih => exact ⟨ih.row_lt, ih.mark_lt⟩

end LootRules.Editor
