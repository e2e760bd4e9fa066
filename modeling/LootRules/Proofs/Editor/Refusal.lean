import LootRules.Proofs.Editor.Bounds

/-!
# Refused commands

A command that would make the document or a line too long is refused. Most commands decide on
that before they change anything. Deleting forward does not: the cursor is in the next row by the
time the join is refused, and has to be taken back. Either way a refused command by itself changes
nothing but the message.

What comes before a command and after it does change more. The mark is dropped, the first of some
kills empties the yank buffer, and the visible rows follow the cursor. They need not move for a
refused command, as the cursor of an editor that can be reached is visible already. The exception
is a program in a wrapping build, where a page that does not fit can have left the cursor above the
visible rows.
-/

namespace LootRules.Editor

open Machine (Build)

/-- What a command by itself makes of an editor: nothing at all for lack of room, or something
without the message that there is none. Whether the last command was a kill is noted elsewhere. -/
structure AllOrNothing (e e' : Editor) : Prop where
  killing : e'.killing = e.killing
  refused : e.status ≠ some .capacityReached → e'.status = some .capacityReached → e' = e.refuse

/-- To refuse is to do nothing. -/
theorem allOrNothing_refuse (e : Editor) : AllOrNothing e e.refuse := ⟨rfl, fun _ _ => rfl⟩

/-- Without a new message nothing has been refused. -/
theorem allOrNothing_of_status {e e' : Editor} (status : e'.status = e.status)
    (killing : e'.killing = e.killing) : AllOrNothing e e' :=
  ⟨killing, fun before after => absurd (status ▸ after) before⟩

/-- Any other message is no refusal. -/
theorem allOrNothing_of_ne {e e' : Editor} (killing : e'.killing = e.killing)
    (other : e'.status ≠ some .capacityReached) : AllOrNothing e e' :=
  ⟨killing, fun _ after => absurd after other⟩

/-- Putting in a character is done or refused. -/
theorem allOrNothing_insertChar (e : Editor) (c : Char) : AllOrNothing e (e.insertChar c) := by
  rw [insertChar]
  split
  · exact allOrNothing_refuse e
  · exact allOrNothing_of_status rfl rfl

/-- Breaking a line is done or refused. -/
theorem allOrNothing_breakLine (e : Editor) : AllOrNothing e e.breakLine := by
  rw [breakLine]
  split
  · exact allOrNothing_refuse e
  · exact allOrNothing_of_status rfl rfl

/-- Putting in lines is done or refused. -/
theorem allOrNothing_insertLines (e : Editor) (lines : List Text) (row col : Nat) :
    AllOrNothing e (e.insertLines lines row col) := by
  rw [insertLines]
  split
  · exact allOrNothing_refuse e
  · exact allOrNothing_of_status rfl rfl

/-- Pasting is done or refused. -/
theorem allOrNothing_paste (e : Editor) : AllOrNothing e e.paste := by
  rcases paste_cases e with ⟨-, done⟩ | ⟨-, -, done⟩ | ⟨-, -, refused⟩
  · rw [done]
    exact allOrNothing_of_status rfl rfl
  · rw [done]
    exact allOrNothing_of_status rfl rfl
  · rw [refused]
    exact allOrNothing_refuse e

/-- Deleting backward is done or refused. -/
theorem allOrNothing_deleteBack (e : Editor) : AllOrNothing e e.deleteBack.1 := by
  rcases deleteBack_cases e with ⟨-, done⟩ | ⟨-, -, done⟩ | ⟨-, -, -, done⟩ | ⟨-, -, -, refused⟩
  · rw [done]
    exact allOrNothing_of_status rfl rfl
  · rw [done]
    exact allOrNothing_of_status rfl rfl
  · rw [done]
    exact allOrNothing_of_status rfl rfl
  · rw [refused]
    exact allOrNothing_refuse e

/-- Deleting forward is done or refused. -/
theorem allOrNothing_deleteForward (e : Editor) : AllOrNothing e e.deleteForward.1 := by
  rcases deleteForward_cases e with
    ⟨-, done⟩ | ⟨-, -, done⟩ | ⟨-, -, -, done⟩ | ⟨-, -, -, refused⟩
  · rw [done]
    exact allOrNothing_of_status rfl rfl
  · rw [done]
    exact allOrNothing_of_status rfl rfl
  · rw [done]
    exact allOrNothing_of_status rfl rfl
  · rw [refused]
    exact allOrNothing_refuse e

/-- Killing is done or refused. -/
theorem allOrNothing_killLine (e : Editor) : AllOrNothing e e.killLine := by
  cases Nat.lt_or_ge e.col e.width with
  | inl inside =>
    rw [killLine_of_lt inside]
    exact allOrNothing_of_status rfl rfl
  | inr stop =>
    obtain ⟨yank, killed⟩ := killLine_of_le stop
    rcases deleteForward_cases e with
      ⟨inside, -⟩ | ⟨-, -, done⟩ | ⟨-, -, -, done⟩ | ⟨-, row, full, -⟩
    · exact absurd inside (Nat.not_lt.mpr stop)
    · rw [killed, done]
      exact allOrNothing_of_status rfl rfl
    · rw [killed, done]
      exact allOrNothing_of_status rfl rfl
    · rw [killLine_of_full stop row full]
      exact allOrNothing_refuse e

/-- A row below the cursor comes without a message. -/
theorem allOrNothing_withRowBelow? {e e' : Editor} (h : e.withRowBelow? = some e') :
    e'.status = e.status ∧ e'.killing = e.killing := by
  unfold withRowBelow? at h
  split at h
  · obtain rfl := Option.some.inj h
    exact ⟨rfl, rfl⟩
  · split at h
    · contradiction
    · obtain rfl := Option.some.inj h
      exact ⟨rfl, rfl⟩

/-- Moving the cursor comes without a message, also where there is no room for a row below. -/
theorem allOrNothing_move (e : Editor) (motion : Motion) : AllOrNothing e (e.move motion) := by
  cases motion with
  | left =>
    rw [move]
    split
    · exact allOrNothing_of_status rfl rfl
    · split <;> exact allOrNothing_of_status rfl rfl
  | right =>
    rw [move]
    split
    · exact allOrNothing_of_status rfl rfl
    · split
      · next below =>
        obtain ⟨status, killing⟩ := allOrNothing_withRowBelow? below
        exact allOrNothing_of_status status killing
      · exact allOrNothing_of_status rfl rfl
  | down =>
    rw [move]
    split
    · next below =>
      obtain ⟨status, killing⟩ := allOrNothing_withRowBelow? below
      exact allOrNothing_of_status status killing
    · exact allOrNothing_of_status rfl rfl
  | up | lineStart | lineEnd | pageUp | pageDown | top | bottom =>
    exact allOrNothing_of_status rfl rfl

/-- Cutting comes without a message. -/
theorem allOrNothing_cut (e : Editor) : AllOrNothing e e.cut := by
  rw [cut]
  split <;> exact allOrNothing_of_status rfl rfl

/-- Setting and taking away the mark comes without a message. -/
theorem allOrNothing_toggleMark (e : Editor) : AllOrNothing e e.toggleMark := by
  rw [toggleMark]
  split <;> exact allOrNothing_of_status rfl rfl

/-- Toggling a part of the action comes without a message, however long the line gets. -/
theorem allOrNothing_toggleAction (e : Editor) (mask : Action) :
    AllOrNothing e (e.toggleAction mask) := by
  rw [toggleAction]
  split
  · exact allOrNothing_of_status rfl rfl
  · split
    · exact allOrNothing_of_status rfl rfl
    · exact allOrNothing_of_status rfl rfl

/-- Toggling a flag comes without a message, however long the lines get. -/
theorem allOrNothing_toggleKeyword (e : Editor) (f : Flag) :
    AllOrNothing e (e.toggleKeyword f) := by
  rw [toggleKeyword]
  split
  split
  · exact allOrNothing_of_status rfl rfl
  · exact allOrNothing_of_status rfl rfl

/-- No result of a search says that there is no room. -/
theorem status?_ne_capacityReached (result : SearchResult) :
    result.status? ≠ some .capacityReached := by
  cases result <;> exact nofun

/-- Searching has messages of its own. -/
theorem allOrNothing_search {e f : Editor} (killing : f.killing = e.killing) (forward : Bool) :
    AllOrNothing e (f.search forward) := by
  have other : some Status.noSearchTarget ≠ some .capacityReached := by decide
  rw [search]
  split
  · exact allOrNothing_of_ne killing other
  · exact allOrNothing_of_ne killing (status?_ne_capacityReached _)

/-- Starting a search has the messages of searching. -/
theorem allOrNothing_searchFor (e : Editor) (target : Option SearchTarget) :
    AllOrNothing e (e.searchFor target) := by
  rw [searchFor]
  refine allOrNothing_search ?_ true
  rfl

/-- What is done with the item destroyed last is all or nothing if it is for each item. -/
theorem allOrNothing_withDestroyed {e : Editor} {act : Editor → Item → Editor}
    (each : ∀ item, AllOrNothing e (act e item)) : AllOrNothing e (e.withDestroyed act) := by
  have other : some Status.nothingDestroyed ≠ some .capacityReached := by decide
  rw [withDestroyed]
  split
  · exact each _
  · exact allOrNothing_of_ne rfl other

/-- Every command by itself is all or nothing. -/
theorem allOrNothing_run (e : Editor) (command : Command) : AllOrNothing e (e.run command) := by
  cases command with
  | quitDiscard | quitSave | help | revert | copy => exact allOrNothing_of_status rfl rfl
  | move motion => exact allOrNothing_move e motion
  | cut => exact allOrNothing_cut e
  | paste => exact allOrNothing_paste e
  | toggleMark => exact allOrNothing_toggleMark e
  | killLine => exact allOrNothing_killLine e
  | deleteChar => exact allOrNothing_deleteForward e
  | backspace => exact allOrNothing_deleteBack e
  | breakLine => exact allOrNothing_breakLine e
  | insertChar c => exact allOrNothing_insertChar e c
  | searchText _ | searchItem _ => exact allOrNothing_searchFor e _
  | searchForward | searchBackward => exact allOrNothing_search rfl _
  | searchDestroyed =>
    rw [run]
    exact allOrNothing_withDestroyed fun item => allOrNothing_searchFor e _
  | insertDestroyed =>
    rw [run]
    exact allOrNothing_withDestroyed fun item => allOrNothing_insertLines e _ _ _
  | insertItem _ | insertConditional | insertMacro _ _ | insertKeymap _ _ _ =>
    exact allOrNothing_insertLines e _ _ _
  | toggleAction mask => exact allOrNothing_toggleAction e mask
  | toggleKeyword flag => exact allOrNothing_toggleKeyword e flag

/-- After a command it is known whether it was a kill. -/
theorem killing_apply (e : Editor) (command : Command) :
    (e.apply command).1.killing = decide (command = .killLine) := by
  rw [apply_eq]
  refine (allOrNothing_run (e.prepare command) command).killing.trans ?_
  rw [prepare_eq]

/-- A command that by itself moves neither the cursor nor the view is all that is done. -/
theorem apply_eq_run {e : Editor} (visible : e.Visible) {command : Command} {f : Editor}
    (run : (e.prepare command).run command = f) (row : f.row = e.row)
    (col : f.col = (e.prepare command).col) (top : f.top = e.top) (limits : f.limits = e.limits) :
    (e.apply command).1 = f := by
  have seen : f.shownTop = f.top := by
    refine shownTop_eq ?_
    rw [Visible, height, row, top, limits]
    exact visible
  have before : (e.prepare command).top = e.top ∧ (e.prepare command).row = e.row := by
    rw [prepare_eq]
    exact ⟨rfl, rfl⟩
  have still : ¬ ((e.prepare command).top ≠ f.shownTop ∨
      (f.mark.isSome ∧ ((e.prepare command).row, (e.prepare command).col) ≠ (f.row, f.col))) := by
    rw [seen, before.1, before.2, row, col, top]
    exact not_or.mpr ⟨fun moved => moved rfl, fun moved => moved.2 rfl⟩
  rw [apply_eq]
  simp only [run]
  rw [if_neg still, seen]

section Program

variable {build : Build} {lines : List Text} {player : Player} {limits : Limits}
  {events : List Event} {e e' : Editor} {command : Command} {outcome : Outcome}

end Program

end LootRules.Editor
