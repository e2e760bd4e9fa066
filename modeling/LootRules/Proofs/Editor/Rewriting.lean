import LootRules.Proofs.Editor.Redraw
import LootRules.Proofs.LineStates

/-!
# What commands can do to the document

Whatever a command is, it leaves the document alone or puts other lines in its place, for the
same player; and the new lines are no more than there were before, or are saved, or have room.
All that is said of the document of an editor follows from that.

First of all, the states of its lines are never stale: they are always the states that its lines
have for its player, also after a command that is refused, and in rows that a motion appends.
-/

namespace LootRules

namespace Editor

/-- The number of lines that a command can leave. -/
def room (e : Editor) : Nat := max e.limits.maxLines (max e.document.size e.saved.length)

/-- One editor has the player, the limits and the saved text of another. -/
structure Alike (e e' : Editor) : Prop where
  player : e'.player = e.player
  limits : e'.limits = e.limits
  saved : e'.saved = e.saved

/-- One editor comes from another by leaving the document alone, or by putting lines in its
place. -/
structure Rewrites (e e' : Editor) : Prop extends Alike e e' where
  document : e'.document = e.document ∨
    ∃ lines : List Text, e'.document = Document.ofLines e.player lines ∧ lines.length ≤ e.room

/-- What leaves the document alone does not rewrite it. -/
theorem rewrites_of_same {e e' : Editor} (alike : Alike e e')
    (document : e'.document = e.document) : Rewrites e e' :=
  ⟨alike, .inl document⟩

/-- Nothing has to be rewritten. -/
theorem Rewrites.refl (e : Editor) : Rewrites e e := rewrites_of_same ⟨rfl, rfl, rfl⟩ rfl

/-- Moving the cursor or telling the player something rewrites no more. -/
theorem Rewrites.trans_same {e f g : Editor} (h : Rewrites e f) (alike : Alike f g)
    (document : g.document = f.document) : Rewrites e g where
  player := alike.player.trans h.player
  limits := alike.limits.trans h.limits
  saved := alike.saved.trans h.saved
  document := document ▸ h.document

/-- An edit puts in lines, of which there must not be too many. -/
theorem rewrites_edit {e f : Editor} (alike : Alike e f) {lines : List Text} (redraw : Redraw)
    (fits : lines.length ≤ e.room) : Rewrites e (f.edit lines redraw) where
  player := alike.player
  limits := alike.limits
  saved := alike.saved
  document := .inr ⟨lines, alike.player ▸ rfl, fits⟩

/-- As many lines as there are are not too many. -/
theorem le_room_of_le_size {e : Editor} {n : Nat} (h : n ≤ e.document.size) : n ≤ e.room :=
  Nat.le_trans h (Nat.le_trans (Nat.le_max_left _ _) (Nat.le_max_right _ _))

/-- As many lines as are allowed are not too many. -/
theorem le_room_of_le_maxLines {e : Editor} {n : Nat} (h : n ≤ e.limits.maxLines) :
    n ≤ e.room :=
  Nat.le_trans h (Nat.le_max_left _ _)

/-- Setting a line leaves as many. -/
theorem rewrites_edit_set {e f : Editor} (alike : Alike e f) (row : Nat) (line : Text)
    (redraw : Redraw) : Rewrites e (f.edit (e.lines.set row line) redraw) :=
  rewrites_edit alike redraw (le_room_of_le_size (Nat.le_of_eq List.length_set))

/-- A row is appended only where there is room for it. -/
theorem rewrites_withRowBelow? {e e' : Editor} (h : e.withRowBelow? = some e') :
    Rewrites e e' := by
  unfold withRowBelow? at h
  split at h
  · obtain rfl := Option.some.inj h
    exact .refl e
  · split at h
    · contradiction
    · next full =>
      obtain rfl := Option.some.inj h
      rw [Bool.or_eq_true, decide_eq_true_iff, not_or, Nat.not_le] at full
      refine ⟨⟨rfl, rfl, rfl⟩, .inr ⟨e.lines ++ [[]], rfl, le_room_of_le_maxLines ?_⟩⟩
      rw [List.length_append]
      exact full.2

/-- Motions rewrite the document only to append a row. -/
theorem rewrites_move (e : Editor) (motion : Motion) : Rewrites e (e.move motion) := by
  cases motion with
  | left =>
    rw [move]
    split
    · exact rewrites_of_same ⟨rfl, rfl, rfl⟩ rfl
    · split <;> exact rewrites_of_same ⟨rfl, rfl, rfl⟩ rfl
  | right =>
    rw [move]
    split
    · exact rewrites_of_same ⟨rfl, rfl, rfl⟩ rfl
    · split
      · next below => exact (rewrites_withRowBelow? below).trans_same ⟨rfl, rfl, rfl⟩ rfl
      · exact .refl e
  | down =>
    rw [move]
    split
    · next below => exact (rewrites_withRowBelow? below).trans_same ⟨rfl, rfl, rfl⟩ rfl
    · exact .refl e
  | up | lineStart | lineEnd | pageUp | pageDown | top | bottom =>
    exact rewrites_of_same ⟨rfl, rfl, rfl⟩ rfl

/-- Joining two rows leaves no more. -/
theorem rewrites_joinBelow {e f : Editor} (alike : Alike e f) (document : f.document = e.document)
    (row : f.row < e.document.size) : Rewrites e f.joinBelow := by
  rw [joinBelow]
  refine rewrites_edit ?_ _ (le_room_of_le_size ?_)
  · exact ⟨alike.player, alike.limits, alike.saved⟩
  · rw [Document.size] at row
    simp only [List.length_append, List.length_take, List.length_cons, List.length_drop, lines,
      document, Document.size]
    omega

/-- Deleting backward leaves no more rows. -/
theorem rewrites_deleteBack {e : Editor} (row : e.row < e.document.size) :
    Rewrites e e.deleteBack.1 := by
  rcases deleteBack_cases e with ⟨-, done⟩ | ⟨-, -, done⟩ | ⟨-, -, -, done⟩ | ⟨-, -, -, done⟩
  · rw [done]
    refine rewrites_edit_set ?_ _ _ _
    exact ⟨rfl, rfl, rfl⟩
  · rw [done]
    exact .refl e
  · rw [done]
    exact rewrites_joinBelow ⟨rfl, rfl, rfl⟩ rfl (Nat.lt_of_le_of_lt (Nat.sub_le _ _) row)
  · rw [done]
    exact rewrites_of_same ⟨rfl, rfl, rfl⟩ rfl

/-- Deleting forward leaves no more rows. -/
theorem rewrites_deleteForward {e : Editor} (row : e.row < e.document.size) :
    Rewrites e e.deleteForward.1 := by
  rcases deleteForward_cases e with
    ⟨-, done⟩ | ⟨-, -, done⟩ | ⟨-, -, -, done⟩ | ⟨-, -, -, done⟩
  · rw [done]
    refine rewrites_edit_set ?_ _ _ _
    exact ⟨rfl, rfl, rfl⟩
  · rw [done]
    exact .refl e
  · rw [done]
    exact rewrites_joinBelow ⟨rfl, rfl, rfl⟩ rfl row
  · rw [done]
    exact rewrites_of_same ⟨rfl, rfl, rfl⟩ rfl

/-- Killing leaves no more rows. -/
theorem rewrites_killLine {e : Editor} (row : e.row < e.document.size) :
    Rewrites e e.killLine := by
  cases Nat.lt_or_ge e.col e.width with
  | inl inside =>
    rw [killLine_of_lt inside]
    refine rewrites_edit_set ?_ _ _ _
    exact ⟨rfl, rfl, rfl⟩
  | inr stop =>
    obtain ⟨yank, done⟩ := killLine_of_le stop
    rw [done]
    exact (rewrites_deleteForward row).trans_same ⟨rfl, rfl, rfl⟩ rfl

/-- Breaking a line is refused where there is no room for one more. -/
theorem rewrites_breakLine {e : Editor} (row : e.row < e.document.size) :
    Rewrites e e.breakLine := by
  rw [breakLine]
  split
  · exact rewrites_of_same ⟨rfl, rfl, rfl⟩ rfl
  · next room =>
    refine rewrites_edit ?_ _ (le_room_of_le_maxLines ?_)
    · exact ⟨rfl, rfl, rfl⟩
    · rw [Document.size] at row room
      simp only [List.length_append, List.length_take, List.length_cons, List.length_drop, lines]
      omega

/-- Putting in lines is refused where there is no room for them. -/
theorem rewrites_insertLines (e : Editor) (lines : List Text) (row col : Nat) :
    Rewrites e (e.insertLines lines row col) := by
  rw [insertLines]
  split
  · exact rewrites_of_same ⟨rfl, rfl, rfl⟩ rfl
  · next room =>
    refine rewrites_edit ?_ _ (le_room_of_le_maxLines ?_)
    · exact ⟨rfl, rfl, rfl⟩
    · rw [Document.size] at room
      simp only [List.length_append, List.length_take, List.length_drop, Editor.lines]
      omega

/-- Pasting is refused where there is no room for the new rows. -/
theorem rewrites_paste {e : Editor} (row : e.row < e.document.size) : Rewrites e e.paste := by
  rcases paste_cases e with ⟨-, done⟩ | ⟨filled, fits, done⟩ | ⟨-, -, done⟩
  · rw [done]
    exact .refl e
  · rw [done]
    have pos := List.length_pos_iff.mpr (pieces_ne_nil filled)
    have begun : prependFirst (Text.beforeColumn e.col e.line) (pieces e.yank) ≠ [] := by
      refine List.ne_nil_of_length_pos ?_
      rw [length_prependFirst (pieces_ne_nil filled)]
      exact pos
    rw [splicePieces]
    refine rewrites_edit ?_ _ (le_room_of_le_maxLines ?_)
    · exact ⟨rfl, rfl, rfl⟩
    · rw [PasteFits, Document.size] at fits
      rw [Document.size] at row
      simp only [List.length_append, List.length_take, List.length_drop, lines,
        length_extendLast begun, length_prependFirst (pieces_ne_nil filled)]
      omega
  · rw [done]
    exact rewrites_of_same ⟨rfl, rfl, rfl⟩ rfl

/-- Cutting leaves no more rows. -/
theorem rewrites_cut {e : Editor} (h : e.WellFormed) : Rewrites e e.cut := by
  rw [cut]
  split
  · next first last region =>
    obtain ⟨before, after, bound⟩ := bound_of_region_rows h region
    refine rewrites_edit ?_ _ (le_room_of_le_size ?_)
    · exact ⟨rfl, rfl, rfl⟩
    · rw [Document.size] at bound ⊢
      split
      · simp only [List.length_append, List.length_take, List.length_cons, List.length_nil, lines]
        omega
      · simp only [List.length_append, List.length_take, List.length_drop, lines]
        omega
  · refine rewrites_edit_set ?_ _ _ _
    exact ⟨rfl, rfl, rfl⟩

/-- Toggling a part of the action sets a line. -/
theorem rewrites_toggleAction (e : Editor) (mask : Action) : Rewrites e (e.toggleAction mask) := by
  rw [toggleAction]
  split
  · exact .refl e
  · split
    · exact .refl e
    · refine rewrites_edit_set ?_ _ _ _
      exact ⟨rfl, rfl, rfl⟩

/-- Toggling a flag leaves as many rows. -/
theorem rewrites_toggleKeyword {e : Editor} (h : e.WellFormed) (f : Flag) :
    Rewrites e (e.toggleKeyword f) := by
  obtain ⟨order, bound⟩ := blockRows_bound h
  rw [toggleKeyword]
  split
  next first last rows =>
  rw [rows] at order bound
  split
  · exact .refl e
  · next done toggled =>
    have length := length_toggleLines f none ((e.lines.drop first).take (last + 1 - first))
    rw [toggled] at length
    refine rewrites_edit ⟨rfl, rfl, rfl⟩ _ (le_room_of_le_size ?_)
    rw [Document.size] at bound ⊢
    simp only [List.length_append, List.length_take, List.length_drop, lines] at length ⊢
    simp only at order bound
    omega

/-- Searching rewrites nothing. -/
theorem rewrites_search (e : Editor) (forward : Bool) : Rewrites e (e.search forward) := by
  rw [search]
  split <;> exact rewrites_of_same ⟨rfl, rfl, rfl⟩ rfl

/-- Starting a search rewrites nothing. -/
theorem rewrites_searchFor (e : Editor) (target : Option SearchTarget) :
    Rewrites e (e.searchFor target) := by
  rw [searchFor, search]
  split <;> exact rewrites_of_same ⟨rfl, rfl, rfl⟩ rfl

/-- What is done with the item destroyed last rewrites no more than it does for each item. -/
theorem rewrites_withDestroyed {e : Editor} {act : Editor → Item → Editor}
    (each : ∀ item, Rewrites e (act e item)) : Rewrites e (e.withDestroyed act) := by
  rw [withDestroyed]
  split
  · exact each _
  · exact rewrites_of_same ⟨rfl, rfl, rfl⟩ rfl

/-- Setting and taking away the mark rewrites nothing. -/
theorem rewrites_toggleMark (e : Editor) : Rewrites e e.toggleMark := by
  rw [toggleMark]
  split <;> exact rewrites_of_same ⟨rfl, rfl, rfl⟩ rfl

/-- Putting in a character sets a line. -/
theorem rewrites_insertChar (e : Editor) (c : Char) : Rewrites e (e.insertChar c) := by
  rw [insertChar]
  split
  · exact rewrites_of_same ⟨rfl, rfl, rfl⟩ rfl
  · refine rewrites_edit_set ?_ _ _ _
    exact ⟨rfl, rfl, rfl⟩

/-- Every command by itself leaves the document alone, or puts lines in its place. -/
theorem rewrites_run {e : Editor} (h : e.WellFormed) (command : Command) :
    Rewrites e (e.run command) := by
  cases command with
  | quitDiscard | quitSave | help => exact .refl e
  | revert =>
    refine ⟨⟨rfl, rfl, rfl⟩, .inr ⟨e.saved, rfl, ?_⟩⟩
    exact Nat.le_trans (Nat.le_max_right _ _) (Nat.le_max_right _ _)
  | move motion => exact rewrites_move e motion
  | cut => exact rewrites_cut h
  | copy => exact rewrites_of_same ⟨rfl, rfl, rfl⟩ rfl
  | paste => exact rewrites_paste h.row_lt
  | toggleMark => exact rewrites_toggleMark e
  | killLine => exact rewrites_killLine h.row_lt
  | deleteChar => exact rewrites_deleteForward h.row_lt
  | backspace => exact rewrites_deleteBack h.row_lt
  | breakLine => exact rewrites_breakLine h.row_lt
  | insertChar c => exact rewrites_insertChar e c
  | searchText _ | searchItem _ => exact rewrites_searchFor _ _
  | searchForward | searchBackward => exact rewrites_search _ _
  | searchDestroyed =>
    rw [run]
    exact rewrites_withDestroyed fun item => rewrites_searchFor _ _
  | insertDestroyed =>
    rw [run]
    exact rewrites_withDestroyed fun item => rewrites_insertLines _ _ _ _
  | insertItem _ | insertConditional | insertMacro _ _ | insertKeymap _ _ _ =>
    exact rewrites_insertLines _ _ _ _
  | toggleAction mask => exact rewrites_toggleAction e mask
  | toggleKeyword flag => exact rewrites_toggleKeyword h flag

/-- What comes before a command leaves the document as it is. -/
theorem document_prepare (e : Editor) (command : Command) :
    (e.prepare command).document = e.document := by
  rw [prepare_eq]

/-- What comes before a command changes neither player nor limits nor the saved text. -/
theorem alike_prepare (e : Editor) (command : Command) : Alike e (e.prepare command) := by
  rw [prepare_eq]
  exact ⟨rfl, rfl, rfl⟩

/-- What is done after that rewrites the document as it was before. -/
theorem Rewrites.of_prepare {e f : Editor} {command : Command}
    (after : Rewrites (e.prepare command) f) : Rewrites e f := by
  obtain ⟨player, limits, saved⟩ := alike_prepare e command
  have document := document_prepare e command
  have room : (e.prepare command).room = e.room := by
    rw [Editor.room, limits, saved, document]
    rfl
  refine ⟨⟨after.player.trans player, after.limits.trans limits, after.saved.trans saved⟩, ?_⟩
  rw [← player, ← document, ← room]
  exact after.document

/-- Every command with what is around it leaves the document alone, or puts lines in its
place. -/
theorem rewrites_apply {e : Editor} (h : e.WellFormed) (command : Command) :
    Rewrites e (e.apply command).1 := by
  rw [apply_eq]
  exact (rewrites_run (wellFormed_prepare h command) command).of_prepare.trans_same
    ⟨rfl, rfl, rfl⟩ rfl

/-- What leaves a document made from its lines, or makes one from lines, ends with a document
made from its lines. -/
theorem Rewrites.document_eq {e e' : Editor} (h : Rewrites e e')
    (before : e.document = Document.ofLines e.player e.lines) :
    e'.document = Document.ofLines e'.player e'.lines := by
  rw [h.player, lines]
  rcases h.document with same | ⟨lines, made, -⟩
  · rw [same]
    exact before
  · rw [made, Document.ofLines_lines]

/-- The document of an editor that can be reached is made from its lines for its player. -/
theorem Reachable.document_eq {e : Editor} (h : Reachable e) :
    e.document = Document.ofLines e.player e.lines := by
  induction h with
  | start lines player limits => exact (Document.ofLines_lines _ lines).symm
  | apply command h ih => exact (rewrites_apply h.wellFormed command).document_eq ih
  | markSaved _ ih | setLastDestroyed _ _ ih | takeRedraw _ ih | takeStatus _ ih => exact ih

/-- In an editor that can be reached, a row is switched off just if the last condition at or above
it is false, is a condition just if it starts like one, and belongs to the block of registered
items just if the header is at or above it. -/
theorem state_iff {e : Editor} (h : Reachable e) {row : Nat} (inside : row < e.document.size) :
    ((e.document.state row).bypass ↔ e.document.LastConditionFalse e.player row) ∧
      ((e.document.state row).expression ↔ Condition.linePrefix <+: e.document.line row) ∧
      ((e.document.state row).autoregister ↔
        ∃ i ≤ row, e.document.line i = registerHeader) := by
  rw [h.document_eq] at inside ⊢
  exact ⟨Document.bypass_state_ofLines inside, Document.expression_state_ofLines inside,
    Document.autoregister_state_ofLines inside⟩

/-- An editor over a rule for mages and a rule for all. -/
def mageRules : Editor :=
  start ["?:[EQU $CLASS Mage]".toList, "spellbooks".toList, "?:1".toList, "boots".toList] {} {}

/-- With a row appended below and a line break put in above, the rule for mages is in the third row
and still switched off. -/
theorem state_iff_mageRules :
    let e := mageRules.applyAll [.move .bottom, .move .down, .move .top, .breakLine]
    e.Reachable ∧ 2 < e.document.size ∧ (e.document.state 2).bypass ∧
      e.document.LastConditionFalse e.player 2 := by
  intro e
  have reached : e.Reachable :=
    ((((Reachable.start _ _ _).apply _).apply _).apply _).apply _
  have inside : 2 < e.document.size := by decide +kernel
  have off : (e.document.state 2).bypass := by decide +kernel
  exact ⟨reached, inside, off, (state_iff reached inside).1.mp off⟩

end Editor

end LootRules
