import LootRules.Proofs.Editor.Refusal

/-!
# Unsaved changes

An editor notes when its text is changed, so that nothing is lost when the player leaves. What
has been saved last, or loaded, is a matter of what happened to the editor, and is worked out
here from its run alone. As long as nothing is noted, the text is what was saved. There is one
exception: a motion may append an empty line below the last one, and that is not noted. It
cannot happen twice, since nothing is appended below an empty line.

For a command by itself there are only four ways to treat the text: to leave it, to append the
empty line, to note a change, and to go back to what was saved.
-/

namespace LootRules.Editor

/-- The lines that an editor shows of a file: where there is none, one empty line. -/
def shown (lines : List Text) : List Text := if lines.isEmpty then [[]] else lines

/-- The lines that were saved last in the course of some events, `known` being those that were
loaded or saved before. -/
def savedLines (e : Editor) (known : List Text) : List Event → List Text
  | [] => known
  | .markSaved :: events => e.markSaved.savedLines e.lines events
  | event :: events => (e.handle event).savedLines known events

/-- What a command by itself makes of the text, and whether that is noted as a change. -/
inductive Flagged (e e' : Editor) : Prop where
  | kept : e'.document = e.document → e'.changed = e.changed → Flagged e e'
  | appended (last : Text) : e.lines.getLast? = some last → last ≠ [] →
      e'.lines = e.lines ++ [[]] → e'.changed = e.changed → Flagged e e'
  | noted : e'.changed = true → Flagged e e'
  | reverted : e'.lines = shown e.saved → e'.changed = false → Flagged e e'

/-- The cursor may go elsewhere afterwards. -/
theorem Flagged.moved {e f g : Editor} (h : Flagged e f) (document : g.document = f.document)
    (changed : g.changed = f.changed) : Flagged e g := by
  have lines : g.lines = f.lines := congrArg Document.lines document
  cases h with
  | kept same noted => exact .kept (document.trans same) (changed.trans noted)
  | appended last there some more noted =>
    exact .appended last there some (lines.trans more) (changed.trans noted)
  | noted noted => exact .noted (changed.trans noted)
  | reverted back noted => exact .reverted (lines.trans back) (changed.trans noted)

/-- The last line is the one that the cursor is in when there is no row below. -/
theorem getLast?_lines {e : Editor} (row : e.row < e.document.size)
    (last : ¬ e.row < e.document.lastRow) : e.lines.getLast? = some e.line := by
  have here : e.lines.length - 1 = e.row := by
    rw [Document.lastRow] at last
    change e.document.size - 1 = e.row
    omega
  rw [List.getLast?_eq_getElem?, here]
  exact Document.getElem?_lines row

/-- A row below the cursor is there, or is appended empty below a line that is not. -/
theorem flagged_withRowBelow? {e e' : Editor} (row : e.row < e.document.size)
    (h : e.withRowBelow? = some e') : Flagged e e' := by
  unfold withRowBelow? at h
  split at h
  · obtain rfl := Option.some.inj h
    exact .kept rfl rfl
  · next last =>
    split at h
    · contradiction
    · next room =>
      obtain rfl := Option.some.inj h
      rw [Bool.or_eq_true, not_or, List.isEmpty_iff] at room
      exact .appended e.line (getLast?_lines row last) room.1 (lines_ofLines (by simp)) rfl

/-- Motions keep the text, but for the row that they may append. -/
theorem flagged_move {e : Editor} (row : e.row < e.document.size) (motion : Motion) :
    Flagged e (e.move motion) := by
  cases motion with
  | left =>
    rw [move]
    split
    · exact .kept rfl rfl
    · split <;> exact .kept rfl rfl
  | right =>
    rw [move]
    split
    · exact .kept rfl rfl
    · split
      · next below => exact (flagged_withRowBelow? row below).moved rfl rfl
      · exact .kept rfl rfl
  | down =>
    rw [move]
    split
    · next below => exact (flagged_withRowBelow? row below).moved rfl rfl
    · exact .kept rfl rfl
  | up | lineStart | lineEnd | pageUp | pageDown | top | bottom => exact .kept rfl rfl

/-- Deleting forward is noted if there is anything to delete. -/
theorem flagged_deleteForward (e : Editor) : Flagged e e.deleteForward.1 := by
  rcases deleteForward_cases e with
    ⟨-, done⟩ | ⟨-, -, done⟩ | ⟨-, -, -, done⟩ | ⟨-, -, -, done⟩ <;> rw [done]
  · exact .noted rfl
  · exact .kept rfl rfl
  · exact .noted rfl
  · exact .kept rfl rfl

/-- Deleting backward is noted if there is anything to delete. -/
theorem flagged_deleteBack (e : Editor) : Flagged e e.deleteBack.1 := by
  rcases deleteBack_cases e with
    ⟨-, done⟩ | ⟨-, -, done⟩ | ⟨-, -, -, done⟩ | ⟨-, -, -, done⟩ <;> rw [done]
  · exact .noted rfl
  · exact .kept rfl rfl
  · exact .noted rfl
  · exact .kept rfl rfl

/-- Killing is noted if there is anything to kill. -/
theorem flagged_killLine (e : Editor) : Flagged e e.killLine := by
  rcases killLine_cases e with ⟨-, done⟩ | ⟨-, -, done⟩ | ⟨-, -, done⟩ | ⟨-, -, done⟩ <;> rw [done]
  · exact .noted rfl
  · exact .kept rfl rfl
  · exact .noted rfl
  · exact .kept rfl rfl

/-- Pasting is noted if there is anything to paste, and room for it. -/
theorem flagged_paste (e : Editor) : Flagged e e.paste := by
  rcases paste_cases e with ⟨-, done⟩ | ⟨-, -, done⟩ | ⟨-, -, done⟩ <;> rw [done]
  · exact .kept rfl rfl
  · exact .noted rfl
  · exact .kept rfl rfl

/-- Putting in lines is noted if there is room for them. -/
theorem flagged_insertLines (e : Editor) (lines : List Text) (row col : Nat) :
    Flagged e (e.insertLines lines row col) := by
  rw [insertLines]
  split
  · exact .kept rfl rfl
  · exact .noted rfl

/-- Toggling a flag is noted if one of the lines is a rule. -/
theorem flagged_toggleKeyword (e : Editor) (f : Flag) : Flagged e (e.toggleKeyword f) := by
  rw [toggleKeyword]
  split
  split
  · exact .kept rfl rfl
  · exact .noted rfl

/-- Toggling a part of the action is noted if the line is a rule and the mask is a part. -/
theorem flagged_toggleAction (e : Editor) (mask : Action) : Flagged e (e.toggleAction mask) := by
  rw [toggleAction]
  split
  · exact .kept rfl rfl
  · split
    · exact .kept rfl rfl
    · exact .noted rfl

/-- Searching keeps the text. -/
theorem flagged_search (e : Editor) (forward : Bool) : Flagged e (e.search forward) := by
  rw [search]
  split <;> exact .kept rfl rfl

/-- Starting a search keeps the text. -/
theorem flagged_searchFor (e : Editor) (target : Option SearchTarget) :
    Flagged e (e.searchFor target) := by
  rw [searchFor, search]
  split <;> exact .kept rfl rfl

/-- What is done with the item destroyed last treats the text as it does for each item. -/
theorem flagged_withDestroyed {e : Editor} {act : Editor → Item → Editor}
    (each : ∀ item, Flagged e (act e item)) : Flagged e (e.withDestroyed act) := by
  rw [withDestroyed]
  split
  · exact each _
  · exact .kept rfl rfl

/-- Every command by itself treats the text in one of the four ways. -/
theorem flagged_run {e : Editor} (h : e.WellFormed) (command : Command) :
    Flagged e (e.run command) := by
  cases command with
  | quitDiscard | quitSave | help | copy => exact .kept rfl rfl
  | revert => exact .reverted rfl rfl
  | move motion => exact flagged_move h.row_lt motion
  | cut =>
    rw [run, cut]
    split <;> exact .noted rfl
  | paste => exact flagged_paste e
  | toggleMark =>
    rw [run, toggleMark]
    split <;> exact .kept rfl rfl
  | killLine => exact flagged_killLine e
  | deleteChar => exact flagged_deleteForward e
  | backspace => exact flagged_deleteBack e
  | breakLine =>
    rw [run, breakLine]
    split
    · exact .kept rfl rfl
    · exact .noted rfl
  | insertChar c =>
    rw [run, insertChar]
    split
    · exact .kept rfl rfl
    · exact .noted rfl
  | searchText _ | searchItem _ => exact flagged_searchFor e _
  | searchForward | searchBackward => exact flagged_search e _
  | searchDestroyed =>
    rw [run]
    exact flagged_withDestroyed fun item => flagged_searchFor e _
  | insertDestroyed =>
    rw [run]
    exact flagged_withDestroyed fun item => flagged_insertLines e _ _ _
  | insertItem _ | insertConditional | insertMacro _ _ | insertKeymap _ _ _ =>
    exact flagged_insertLines e _ _ _
  | toggleAction mask => exact flagged_toggleAction e mask
  | toggleKeyword flag => exact flagged_toggleKeyword e flag

/-- Every command with what is around it treats the text in one of the four ways. -/
theorem flagged_apply {e : Editor} (h : e.WellFormed) (command : Command) :
    Flagged e (e.apply command).1 := by
  have changed : (e.prepare command).changed = e.changed := by rw [prepare_eq]
  have saved := (alike_prepare e command).saved
  have document := document_prepare e command
  have lines : (e.prepare command).lines = e.lines := congrArg Document.lines document
  have after := flagged_run (wellFormed_prepare h command) command
  rw [apply_eq]
  cases after with
  | kept same noted => exact .kept (same.trans document) (noted.trans changed)
  | appended last there some more noted =>
    exact .appended last (lines ▸ there) some (lines ▸ more) (noted.trans changed)
  | noted noted => exact .noted noted
  | reverted back noted => exact .reverted (saved ▸ back) noted

/-- A text is what was saved, or has one empty line more below a last line that is not empty. -/
def SavedBut (saved lines : List Text) : Prop :=
  lines = saved ∨ lines = saved ++ [[]] ∧ ∃ last, saved.getLast? = some last ∧ last ≠ []

/-- An editor goes back to the saved lines, and has them unless it notes a change. -/
structure Tracks (saved : List Text) (e : Editor) : Prop where
  saved_eq : shown e.saved = saved
  unchanged : e.changed = false → SavedBut saved e.lines

/-- A command leaves an editor that tracks what was saved. -/
theorem Tracks.apply {saved : List Text} {e : Editor} (h : Tracks saved e) (inside : e.WellFormed)
    (command : Command) : Tracks saved (e.apply command).1 where
  saved_eq := by
    rw [(rewrites_apply inside command).saved]
    exact h.saved_eq
  unchanged silent := by
    cases flagged_apply inside command with
    | kept same noted =>
      have lines : (e.apply command).1.lines = e.lines := congrArg Document.lines same
      rw [lines]
      exact h.unchanged (noted ▸ silent)
    | appended last there some more noted =>
      rcases h.unchanged (noted ▸ silent) with same | ⟨one, -⟩
      · rw [more]
        exact .inr ⟨same ▸ rfl, last, same ▸ there, some⟩
      · -- The line appended before is empty, and nothing is appended below it.
        rw [one, List.getLast?_concat] at there
        exact absurd (Option.some.inj there).symm some
    | noted noted => exact absurd (noted.symm.trans silent) nofun
    | reverted back _ => exact .inl (back.trans h.saved_eq)

/-- An event leaves an editor that tracks what was saved, which is another text only if that is
recorded. -/
theorem Tracks.savedLines {saved : List Text} {e : Editor} (h : Tracks saved e)
    (reached : Reachable e) (events : List Event) :
    Tracks (e.savedLines saved events) (e.handleAll events) := by
  induction events generalizing e saved with
  | nil => exact h
  | cons event events ih =>
    have next := reached.handle event
    cases event with
    | command command => exact ih (h.apply reached.wellFormed command) next
    | markSaved =>
      have seen : shown e.lines = e.lines :=
        if_neg (List.isEmpty_eq_false_iff.mpr reached.ready.lines_ne_nil ▸ Bool.false_ne_true)
      exact ih ⟨seen, fun _ => .inl rfl⟩ next
    | setLastDestroyed _ | takeRedraw | takeStatus => exact ih ⟨h.saved_eq, h.unchanged⟩ next

/-- An editor starts with what was loaded. -/
theorem tracks_start (lines : List Text) (player : Player) (limits : Limits) :
    Tracks (shown lines) (start lines player limits) :=
  ⟨rfl, fun _ => .inl rfl⟩

/-- Reverting takes the cursor and the view of the text to the top, and drops the mark. -/
theorem apply_revert (e : Editor) :
    let e' := (e.apply .revert).1
    e'.lines = shown e.saved ∧ e'.changed = false ∧ e'.mark = none ∧ e'.cursor = (0, 0) ∧
      e'.top = 0 := by
  have visible : (e.prepare .revert).revert.Visible :=
    ⟨Nat.le_refl 0, Nat.lt_add_left 0 (Nat.le_max_right _ _)⟩
  rw [apply_eq]
  refine ⟨?_, rfl, rfl, ?_, shownTop_eq visible⟩
  · change shown (e.prepare .revert).saved = _
    rw [(alike_prepare e .revert).saved]
  · exact Prod.ext rfl (Nat.zero_min _)

/-- Whatever happens to an editor: unless it says that the text is changed, the text is what was
loaded or saved last, but for an empty line below a last line that is not empty; and reverting
brings back exactly what was loaded or saved last, with nothing changed and no mark, and with the
cursor and the view at the top. -/
theorem savedBut_handleAll (lines : List Text) (player : Player) (limits : Limits)
    (events : List Event) :
    let e := (start lines player limits).handleAll events
    let saved := (start lines player limits).savedLines (shown lines) events
    let reverted := (e.apply .revert).1
    (e.changed = false → SavedBut saved e.lines) ∧
      reverted.lines = saved ∧ reverted.changed = false ∧ reverted.mark = none ∧
      reverted.cursor = (0, 0) ∧ reverted.top = 0 := by
  intro e saved reverted
  have tracked : Tracks saved e :=
    (tracks_start lines player limits).savedLines (.start lines player limits) events
  have back := apply_revert e
  rw [tracked.saved_eq] at back
  exact ⟨tracked.unchanged, back⟩

/-- An empty line that a motion appends is not noted. -/
example :
    let e := (start ["rings".toList] {} {}).handleAll [.command (.move .down)]
    e.changed = false ∧ e.lines = ["rings".toList, []] := by
  decide +kernel

end LootRules.Editor
