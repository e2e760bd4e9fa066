import LootRules.Proofs.Editor.Reachable

/-!
# What is drawn anew covers what changed

Whoever draws an editor asks from time to time what has to be drawn anew, and leaves the rest
of the screen alone. That is sound if the answer covers every change since the question
before: no answer allows no change at all, and the answer of one row allows changes of that
row only.

What two commands ask for is merged, and the merged request covers what both of them change.
So it is enough to look at one command. The text and the mark are accounted for by the command
itself; the cursor and the visible rows by what stands around it.
-/

namespace LootRules

namespace Redraw

/-- Nothing more to draw leaves a request as it is. -/
theorem merge_nothing (d : Redraw) : d.merge .nothing = d := by
  cases d <;> rfl

/-- Everything to draw is everything, whatever was to be drawn before. -/
theorem merge_everything (d : Redraw) : d.merge .everything = .everything := by
  cases d <;> rfl

/-- Everything to draw is everything, whatever is to be drawn besides. -/
theorem everything_merge (d : Redraw) : Redraw.everything.merge d = .everything := by
  cases d <;> rfl

/-- Two rows to draw are one row if they are the same, and else everything. -/
theorem line_merge_line (i j : Nat) :
    (line i).merge (.line j) = if i = j then .line i else .everything := rfl

/-- Requests can be merged in any grouping. -/
theorem merge_assoc (a b c : Redraw) : (a.merge b).merge c = a.merge (b.merge c) := by
  cases a with
  | nothing => rfl
  | everything => simp only [everything_merge]
  | line i =>
    cases b with
    | nothing => rfl
    | everything => rw [merge_everything, everything_merge, merge_everything]
    | line j =>
      cases c with
      | nothing => simp only [merge_nothing]
      | everything => simp only [merge_everything]
      | line k =>
        by_cases first : i = j
        · rw [first, line_merge_line j j, if_pos rfl]
          by_cases second : j = k
          · rw [second, line_merge_line, if_pos rfl, line_merge_line, if_pos rfl]
          · rw [line_merge_line, if_neg second, merge_everything]
        · rw [line_merge_line i j, if_neg first, everything_merge]
          by_cases second : j = k
          · rw [second, line_merge_line, if_pos rfl, line_merge_line, if_neg (second ▸ first)]
          · rw [line_merge_line, if_neg second, merge_everything]

end Redraw

namespace Editor

/-- One editor comes from another by changes of a single row: its text and its state, and a mark
that is set in it. -/
structure SameBut (row : Nat) (e e' : Editor) : Prop where
  size : e'.document.size = e.document.size
  line : ∀ r ≠ row, e'.document.line r = e.document.line r
  state : ∀ r ≠ row, e'.document.state r = e.document.state r
  mark : e'.mark = e.mark ∨ e.mark = none ∧ ∃ col, e'.mark = some (row, col)

/-- One editor comes from another without any change of the text and the selection. -/
structure Same (e e' : Editor) : Prop where
  document : e'.document = e.document
  mark : e'.mark = e.mark
  cursor : e.mark.isSome → e'.cursor = e.cursor

/-- Without a change there is none in the other rows. -/
theorem Same.sameBut {e e' : Editor} (h : Same e e') (row : Nat) : SameBut row e e' where
  size := by rw [h.document]
  line := fun _ _ => by rw [h.document]
  state := fun _ _ => by rw [h.document]
  mark := .inl h.mark

/-- Two changes of a row are one. -/
theorem SameBut.trans {row : Nat} {e f g : Editor} (h : SameBut row e f) (h' : SameBut row f g) :
    SameBut row e g where
  size := h'.size.trans h.size
  line := fun r hr => (h'.line r hr).trans (h.line r hr)
  state := fun r hr => (h'.state r hr).trans (h.state r hr)
  mark := by
    rcases h.mark with first | ⟨unmarked, col, set⟩
    · rw [← first]
      exact h'.mark
    · rcases h'.mark with second | ⟨unmarked, -⟩
      · exact .inr ⟨unmarked, col, second.trans set⟩
      · rw [set] at unmarked
        contradiction

/-- Two steps without a change are none. -/
theorem Same.trans {e f g : Editor} (h : Same e f) (h' : Same f g) : Same e g where
  document := h'.document.trans h.document
  mark := h'.mark.trans h.mark
  cursor := fun marked => by
    rw [← h.cursor marked]
    rw [← h.mark] at marked
    exact h'.cursor marked

end Editor

/-- A request to draw covers the way from one editor to another if no more has changed on the
screen than is drawn anew. -/
def Redraw.Covers (e e' : Editor) : Redraw → Prop
  | nothing => e'.top = e.top ∧ e.Same e'
  | line row => e'.top = e.top ∧ e.SameBut row e'
  | everything => True

/-- What two ways ask for covers them both. -/
theorem Redraw.Covers.merge {d d' : Redraw} {e f g : Editor} (h : d.Covers e f)
    (h' : d'.Covers f g) : (d.merge d').Covers e g := by
  cases d with
  | everything =>
    rw [everything_merge]
    trivial
  | nothing =>
    cases d' with
    | nothing => exact ⟨h'.1.trans h.1, h.2.trans h'.2⟩
    | line row => exact ⟨h'.1.trans h.1, (h.2.sameBut row).trans h'.2⟩
    | everything => trivial
  | line row =>
    cases d' with
    | nothing => exact ⟨h'.1.trans h.1, h.2.trans (h'.2.sameBut row)⟩
    | line row' =>
      rw [line_merge_line]
      split
      · next same =>
        subst same
        exact ⟨h'.1.trans h.1, h.2.trans h'.2⟩
      · trivial
    | everything => trivial

namespace Editor

/-- On the way from one editor to another, what is added to what has to be drawn covers what
changes. -/
def Accounted (e e' : Editor) : Prop :=
  ∃ d : Redraw, e'.redraw = e.redraw.merge d ∧ d.Covers e e'

/-- Where nothing happens nothing has to be drawn. -/
theorem Accounted.refl (e : Editor) : Accounted e e :=
  ⟨.nothing, (Redraw.merge_nothing _).symm, rfl, rfl, rfl, fun _ => rfl⟩

/-- Two ways that are accounted for are one. -/
theorem Accounted.trans {e f g : Editor} (h : Accounted e f) (h' : Accounted f g) :
    Accounted e g := by
  obtain ⟨d, first, covered⟩ := h
  obtain ⟨d', second, covered'⟩ := h'
  refine ⟨d.merge d', ?_, covered.merge covered'⟩
  rw [second, first, Redraw.merge_assoc]

/-- A request for everything accounts for every change. -/
theorem accounted_of_everything {e e' : Editor} (h : e'.redraw = .everything) : Accounted e e' :=
  ⟨.everything, h.trans (Redraw.merge_everything _).symm, trivial⟩

/-- What a command by itself adds to what has to be drawn: everything, nothing if it changes
neither the document nor the mark, or a row if that has all changes. -/
inductive Asks (e e' : Editor) : Prop where
  | everything : e'.redraw = .everything → Asks e e'
  | nothing : e'.redraw = e.redraw → e'.document = e.document → e'.mark = e.mark → Asks e e'
  | line (row : Nat) : e'.redraw = e.redraw.merge (.line row) → SameBut row e e' → Asks e e'

/-- A command that does nothing to the text asks for nothing. -/
theorem Asks.refl (e : Editor) : Asks e e := .nothing rfl rfl rfl

/-- An edit that asks for everything has everything drawn. -/
theorem redraw_edit_everything (e : Editor) (lines : List Text) :
    (e.edit lines .everything).redraw = .everything := by
  change (e.redraw.merge .everything).merge _ = _
  rw [Redraw.merge_everything, Redraw.everything_merge]

/-- Setting a line asks for its row, and for everything if the state of a line has changed. -/
theorem asks_edit_set {e f : Editor} (lines : e.lines ≠ [])
    (same : f.document = e.document ∧ f.mark = e.mark ∧ f.redraw = e.redraw) (row : Nat)
    (line : Text) : Asks e (f.edit (e.lines.set row line) (.line row)) := by
  obtain ⟨document, mark, redraw⟩ := same
  have written : (Document.ofLines f.player (e.lines.set row line)).lines =
      e.lines.set row line := by
    refine lines_ofLines fun empty => lines ?_
    rw [← List.length_eq_zero_iff, List.length_set, List.length_eq_zero_iff] at empty
    exact empty
  by_cases states : (Document.ofLines f.player (e.lines.set row line)).states = e.document.states
  · refine .line row ?_ ⟨?_, fun r other => ?_, fun r _ => ?_, .inl mark⟩
    · change (f.redraw.merge (.line row)).merge (if _ = _ then _ else _) = _
      rw [document, if_pos states, Redraw.merge_nothing, redraw]
    · change (Document.ofLines f.player (e.lines.set row line)).lines.length = _
      rw [written]
      exact List.length_set
    · change (Document.ofLines f.player (e.lines.set row line)).lines.getD r [] = _
      rw [written, List.getD_eq_getElem?_getD, List.getElem?_set_ne (Ne.symm other)]
      exact List.getD_eq_getElem?_getD.symm
    · change (Document.ofLines f.player (e.lines.set row line)).states.getD r {} = _
      rw [states]
      rfl
  · refine .everything ?_
    change (f.redraw.merge (.line row)).merge (if _ = _ then _ else _) = _
    rw [document, if_neg states, Redraw.merge_everything]

/-- Motions ask for everything when they append a row, and else for nothing. -/
theorem asks_withRowBelow? {e e' : Editor} (h : e.withRowBelow? = some e') : Asks e e' := by
  unfold withRowBelow? at h
  split at h
  · obtain rfl := Option.some.inj h
    exact .refl e
  · split at h
    · contradiction
    · obtain rfl := Option.some.inj h
      exact .everything (Redraw.merge_everything _)

/-- Moving the cursor asks for no more. -/
theorem Asks.moved {e f g : Editor} (h : Asks e f)
    (same : g.document = f.document ∧ g.mark = f.mark ∧ g.redraw = f.redraw) : Asks e g := by
  obtain ⟨document, mark, redraw⟩ := same
  cases h with
  | everything all => exact .everything (redraw.trans all)
  | nothing none document' mark' =>
    exact .nothing (redraw.trans none) (document.trans document') (mark.trans mark')
  | line row one but =>
    refine .line row (redraw.trans one) ⟨?_, ?_, ?_, ?_⟩
    · rw [document]
      exact but.size
    · rw [document]
      exact but.line
    · rw [document]
      exact but.state
    · rw [mark]
      exact but.mark

/-- A motion asks for enough. -/
theorem asks_move (e : Editor) (motion : Motion) : Asks e (e.move motion) := by
  cases motion with
  | left =>
    rw [move]
    split
    · exact .nothing rfl rfl rfl
    · split <;> exact .nothing rfl rfl rfl
  | right =>
    rw [move]
    split
    · exact .nothing rfl rfl rfl
    · split
      · next below => exact (asks_withRowBelow? below).moved ⟨rfl, rfl, rfl⟩
      · exact .refl e
  | down =>
    rw [move]
    split
    · next below => exact (asks_withRowBelow? below).moved ⟨rfl, rfl, rfl⟩
    · exact .refl e
  | up | lineStart | lineEnd | pageUp | pageDown | top | bottom => exact .nothing rfl rfl rfl

/-- Searching asks for nothing. -/
theorem asks_search (e : Editor) (forward : Bool) : Asks e (e.search forward) := by
  rw [search]
  split <;> exact .nothing rfl rfl rfl

/-- Starting a search asks for nothing. -/
theorem asks_searchFor (e : Editor) (target : Option SearchTarget) :
    Asks e (e.searchFor target) := by
  rw [searchFor, search]
  split <;> exact .nothing rfl rfl rfl

/-- Putting in lines asks for everything, unless it is refused. -/
theorem asks_insertLines (e : Editor) (lines : List Text) (row col : Nat) :
    Asks e (e.insertLines lines row col) := by
  rw [insertLines]
  split
  · exact .nothing rfl rfl rfl
  · exact .everything (redraw_edit_everything _ _)

/-- What is done with the item destroyed last asks for enough if it does for each item. -/
theorem asks_withDestroyed {e : Editor} {act : Editor → Item → Editor}
    (each : ∀ item, Asks e (act e item)) : Asks e (e.withDestroyed act) := by
  rw [withDestroyed]
  split
  · exact each _
  · exact .nothing rfl rfl rfl

/-- Joining two rows asks for everything. -/
theorem redraw_joinBelow (e : Editor) : e.joinBelow.redraw = .everything :=
  redraw_edit_everything _ _

/-- Deleting backward asks for enough. -/
theorem asks_deleteBack {e : Editor} (lines : e.lines ≠ []) : Asks e e.deleteBack.1 := by
  rcases deleteBack_cases e with ⟨-, done⟩ | ⟨-, -, done⟩ | ⟨-, -, -, done⟩ | ⟨-, -, -, done⟩
  · rw [done]
    refine asks_edit_set lines ?_ _ _
    exact ⟨rfl, rfl, rfl⟩
  · rw [done]
    exact .refl e
  · rw [done]
    exact .everything e.above.redraw_joinBelow
  · rw [done]
    exact .nothing rfl rfl rfl

/-- Deleting forward asks for enough. -/
theorem asks_deleteForward {e : Editor} (lines : e.lines ≠ []) : Asks e e.deleteForward.1 := by
  rcases deleteForward_cases e with ⟨-, done⟩ | ⟨-, -, done⟩ | ⟨-, -, -, done⟩ | ⟨-, -, -, done⟩
  · rw [done]
    refine asks_edit_set lines ?_ _ _
    exact ⟨rfl, rfl, rfl⟩
  · rw [done]
    exact .refl e
  · rw [done]
    exact .everything e.redraw_joinBelow
  · rw [done]
    exact .nothing rfl rfl rfl

/-- Killing asks for enough. -/
theorem asks_killLine {e : Editor} (lines : e.lines ≠ []) : Asks e e.killLine := by
  cases Nat.lt_or_ge e.col e.width with
  | inl inside =>
    rw [killLine_of_lt inside]
    refine asks_edit_set lines ?_ _ _
    exact ⟨rfl, rfl, rfl⟩
  | inr stop =>
    obtain ⟨yank, done⟩ := killLine_of_le stop
    rw [done]
    exact (asks_deleteForward lines).moved ⟨rfl, rfl, rfl⟩

/-- Pasting asks for everything, unless it is refused. -/
theorem asks_paste (e : Editor) : Asks e e.paste := by
  rcases paste_cases e with ⟨-, done⟩ | ⟨-, -, done⟩ | ⟨-, -, done⟩
  · rw [done]
    exact .refl e
  · rw [done]
    exact .everything (redraw_edit_everything _ _)
  · rw [done]
    exact .nothing rfl rfl rfl

/-- Setting the mark asks for its row, and taking it away for everything. -/
theorem asks_toggleMark (e : Editor) : Asks e e.toggleMark := by
  rw [toggleMark]
  split
  · exact .everything (Redraw.merge_everything _)
  · next unmarked =>
    exact .line e.row rfl ⟨rfl, fun _ _ => rfl, fun _ _ => rfl, .inr ⟨unmarked, _, rfl⟩⟩

/-- Changing the marks of a rule asks for its row. -/
theorem asks_toggleAction {e : Editor} (lines : e.lines ≠ []) (mask : Action) :
    Asks e (e.toggleAction mask) := by
  rw [toggleAction]
  split
  · exact .refl e
  · split
    · exact .refl e
    · refine asks_edit_set lines ?_ _ _
      exact ⟨rfl, rfl, rfl⟩

/-- Changing the flags of a rule asks for everything. -/
theorem asks_toggleKeyword (e : Editor) (flag : Flag) : Asks e (e.toggleKeyword flag) := by
  rw [toggleKeyword]
  split
  split
  · exact .refl e
  · exact .everything (redraw_edit_everything _ _)

/-- Every command by itself asks for enough. -/
theorem asks_run {e : Editor} (lines : e.lines ≠ []) (command : Command) :
    Asks e (e.run command) := by
  cases command with
  | quitDiscard | quitSave | help => exact .refl e
  | revert | copy => exact .everything (Redraw.merge_everything _)
  | move motion => exact asks_move e motion
  | cut =>
    rw [run, cut]
    split <;> exact .everything (redraw_edit_everything _ _)
  | paste => exact asks_paste e
  | toggleMark => exact asks_toggleMark e
  | killLine => exact asks_killLine lines
  | deleteChar => exact asks_deleteForward lines
  | backspace => exact asks_deleteBack lines
  | breakLine =>
    rw [run, breakLine]
    split
    · exact .nothing rfl rfl rfl
    · exact .everything (redraw_edit_everything _ _)
  | insertChar c =>
    rw [run, insertChar]
    split
    · exact .nothing rfl rfl rfl
    · refine asks_edit_set lines ?_ _ _
      exact ⟨rfl, rfl, rfl⟩
  | searchText _ | searchItem _ => exact asks_searchFor _ _
  | searchForward | searchBackward => exact asks_search _ _
  | searchDestroyed =>
    rw [run]
    exact asks_withDestroyed fun item => asks_searchFor _ _
  | insertDestroyed =>
    rw [run]
    exact asks_withDestroyed fun item => asks_insertLines _ _ _ _
  | insertItem _ | insertConditional | insertMacro _ _ | insertKeymap _ _ _ =>
    exact asks_insertLines _ _ _ _
  | toggleAction mask => exact asks_toggleAction lines mask
  | toggleKeyword flag => exact asks_toggleKeyword e flag

/-- What comes before a command is accounted for: a mark goes only with everything drawn. -/
theorem accounted_prepare (e : Editor) (command : Command) :
    Accounted e (e.prepare command) := by
  cases clears : command.clearsMark && e.mark.isSome with
  | true =>
    refine accounted_of_everything ?_
    rw [prepare_eq]
    exact if_pos clears
  | false =>
    have unmarked : command.clearsMark = true → e.mark = none := by
      intro hc
      rw [hc, Bool.true_and, Option.isSome_eq_false_iff] at clears
      exact Option.isNone_iff_eq_none.mp clears
    have mark : (e.prepare command).mark = e.mark := by
      rw [prepare_eq]
      dsimp only
      split
      · next hc => exact (unmarked hc).symm
      · rfl
    refine ⟨.nothing, ?_, ?_, ?_, mark, fun _ => e.cursor_prepare command⟩
    · rw [prepare_eq, Redraw.merge_nothing]
      exact if_neg (Bool.eq_false_iff.mp clears)
    · rw [prepare_eq]
    · rw [prepare_eq]

/-- What a command asks for by itself, and what is asked for when the visible rows or a selection
move, account for all changes. -/
theorem Asks.accounted {e f : Editor} (h : Asks e f) :
    Accounted e { f with
      top := f.shownTop
      redraw :=
        if e.top ≠ f.shownTop ∨ (f.mark.isSome ∧ (e.row, e.col) ≠ (f.row, f.col)) then .everything
        else f.redraw } := by
  split
  · exact accounted_of_everything rfl
  · next still =>
    rw [not_or, not_and, Classical.not_not, Classical.not_not] at still
    obtain ⟨shown, selection⟩ := still
    cases h with
    | everything all => exact accounted_of_everything all
    | nothing none document mark =>
      -- In the same document the cursor is seen where it was, unless it moved.
      refine ⟨.nothing, none.trans (Redraw.merge_nothing _).symm, shown.symm, document, mark,
        fun marked => ?_⟩
      obtain ⟨row, col⟩ := Prod.mk.inj (selection (mark ▸ marked))
      change (f.row, min f.col (Text.columns (f.document.line f.row))) =
        (e.row, min e.col (Text.columns (e.document.line e.row)))
      rw [document, row, col]
    | line row one but =>
      exact ⟨.line row, one, shown.symm, but.size, but.line, but.state, but.mark⟩

/-- Every command with what is around it is accounted for. -/
theorem accounted_apply {e : Editor} (lines : e.lines ≠ []) (command : Command) :
    Accounted e (e.apply command).1 := by
  have lines' : (e.prepare command).lines ≠ [] := by
    rw [prepare_eq]
    exact lines
  rw [apply_eq]
  exact (e.accounted_prepare command).trans (asks_run lines' command).accounted

/-- The editor after some commands, one after the other. -/
def applyAll (e : Editor) : List Command → Editor
  | [] => e
  | command :: commands => (e.apply command).1.applyAll commands

/-- Commands one after the other are accounted for. -/
theorem accounted_applyAll {e : Editor} (h : Reachable e) (commands : List Command) :
    Accounted e (e.applyAll commands) := by
  induction commands generalizing e with
  | nil => exact .refl e
  | cons command commands ih =>
    have lines : e.lines ≠ [] :=
      List.ne_nil_of_length_pos (Nat.zero_lt_of_lt h.wellFormed.row_lt)
    exact (accounted_apply lines command).trans (ih (h.apply command))

/-- What has to be drawn after some commands covers all that has changed since the question
before. -/
theorem covers_takeRedraw {e : Editor} (h : Reachable e) (commands : List Command) :
    (e.takeRedraw.2.applyAll commands).takeRedraw.1.Covers e.takeRedraw.2
      (e.takeRedraw.2.applyAll commands) := by
  obtain ⟨d, redraw, covered⟩ := accounted_applyAll h.takeRedraw commands
  have asked : (e.takeRedraw.2.applyAll commands).takeRedraw.1 = d := redraw
  rw [asked]
  exact covered

/-- An editor over three rules. -/
def threeRules : Editor := start ["rings".toList, "boots".toList, "cloaks".toList] {} {}

/-- Typing into the second line and then setting the mark there. -/
def typing : List Command := [.move .down, .insertChar '!', .toggleMark]

/-- Typing into the second of three lines has that line drawn anew. -/
theorem covers_takeRedraw_typing :
    threeRules.Reachable ∧
      (threeRules.takeRedraw.2.applyAll typing).takeRedraw.1 = .line 1 ∧
      (threeRules.takeRedraw.2.applyAll typing).takeRedraw.1.Covers threeRules.takeRedraw.2
        (threeRules.takeRedraw.2.applyAll typing) := by
  have reached : threeRules.Reachable := .start _ _ _
  have drawn : (threeRules.takeRedraw.2.applyAll typing).takeRedraw.1 = .line 1 := by
    decide +kernel
  exact ⟨reached, drawn, covers_takeRedraw reached typing⟩

end Editor

end LootRules
