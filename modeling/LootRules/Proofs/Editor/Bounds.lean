import LootRules.Proofs.Editor.Checked

/-!
# The bounds of an editor

Whatever happens to an editor, it stays within bounds: the document has a line and one state for
each of its lines, the rows of cursor and mark are in it, the cursor is in the visible part, and
there are no more lines than are allowed, or than there were to begin with.

Rows and visible part hold after every command by themselves. The number of lines needs the
saved text as well, which comes back when the player reverts, and which was the text of some
earlier moment. With the rows in place, no command asks for anything that is not there.

That is so for the commands as they are counted out with natural numbers. The program that has
words for them comes to the same, whatever happens to the editor, unless a page does not fit: then
a checked build stops where a sum is no word. Only a setting for the visible rows that is about as
large as the largest word can make a page not fit.
-/

namespace LootRules.Editor

open Machine (Build Computes Stop)

/-- What can happen to an editor. -/
inductive Event where
  | command (command : Command)
  | markSaved
  | setLastDestroyed (item : Item)
  | takeRedraw
  | takeStatus

/-- The editor after an event. -/
def handle (e : Editor) : Event → Editor
  | .command command => (e.apply command).1
  | .markSaved => e.markSaved
  | .setLastDestroyed item => e.setLastDestroyed item
  | .takeRedraw => e.takeRedraw.2
  | .takeStatus => e.takeStatus.2

/-- The editor after some events, one after the other. -/
def handleAll (e : Editor) : List Event → Editor
  | [] => e
  | event :: events => (e.handle event).handleAll events

/-- An event leads to an editor that can be reached. -/
theorem Reachable.handle {e : Editor} (h : Reachable e) (event : Event) :
    Reachable (e.handle event) := by
  cases event with
  | command command => exact h.apply command
  | markSaved => exact h.markSaved
  | setLastDestroyed item => exact h.setLastDestroyed item
  | takeRedraw => exact h.takeRedraw
  | takeStatus => exact h.takeStatus

/-- Events lead to an editor that can be reached. -/
theorem Reachable.handleAll {e : Editor} (h : Reachable e) (events : List Event) :
    Reachable (e.handleAll events) := by
  induction events generalizing e with
  | nil => exact h
  | cons event events ih => exact ih (h.handle event)

/-- What rewrites a document leaves one state for every line. -/
theorem Rewrites.aligned {e e' : Editor} (h : Rewrites e e') (aligned : e.document.Aligned) :
    e'.document.Aligned := by
  rcases h.document with same | ⟨lines, made, -⟩
  · rw [same]
    exact aligned
  · rw [made]
    exact Document.ofLines_states_length _ _

/-- In an editor that can be reached, commands find all they look for. -/
theorem Reachable.ready {e : Editor} (h : Reachable e) : e.Ready where
  toWellFormed := h.wellFormed
  aligned := by
    rw [h.document_eq]
    exact Document.ofLines_states_length _ _

/-- In an editor that can be reached, the cursor is visible. -/
theorem Reachable.visible {e : Editor} (h : Reachable e) : e.Visible := by
  induction h with
  | start lines player limits =>
    have height : 1 ≤ max limits.pageRows 1 := Nat.le_max_right _ _
    exact ⟨Nat.le_refl 0, Nat.lt_of_lt_of_le height (Nat.le_add_left _ 0)⟩
  | apply command _ _ => exact visible_apply _ command
  | markSaved _ ih | setLastDestroyed _ _ ih | takeRedraw _ ih | takeStatus _ ih => exact ih

/-- The limits are those given, and the text and the saved text have no more lines than some
bound. -/
structure Kept (limits : Limits) (bound : Nat) (e : Editor) : Prop where
  limits_eq : e.limits = limits
  size_le : e.document.size ≤ bound
  saved_le : e.saved.length ≤ bound

variable {limits : Limits} {bound : Nat} {e : Editor}

/-- What rewrites a document keeps the bounds, if they leave room for as many lines as are
allowed. -/
theorem Kept.of_rewrites {e' : Editor} (h : Kept limits bound e) (rewritten : Rewrites e e')
    (allowed : limits.maxLines ≤ bound) (one : 1 ≤ bound) : Kept limits bound e' := by
  refine ⟨rewritten.limits.trans h.limits_eq, ?_, ?_⟩
  · rcases rewritten.document with same | ⟨lines, made, fits⟩
    · rw [same]
      exact h.size_le
    · have room : e.room ≤ bound := by
        rw [room, h.limits_eq]
        exact Nat.max_le.mpr ⟨allowed, Nat.max_le.mpr ⟨h.size_le, h.saved_le⟩⟩
      rw [made, Document.size_ofLines]
      exact Nat.max_le.mpr ⟨Nat.le_trans fits room, one⟩
  · rw [rewritten.saved]
    exact h.saved_le

/-- An event keeps the bounds. -/
theorem Kept.handle (h : Kept limits bound e) (rows : e.WellFormed)
    (allowed : limits.maxLines ≤ bound) (one : 1 ≤ bound) (event : Event) :
    Kept limits bound (e.handle event) := by
  cases event with
  | command command => exact h.of_rewrites (rewrites_apply rows command) allowed one
  | markSaved => exact ⟨h.limits_eq, h.size_le, h.size_le⟩
  | setLastDestroyed _ | takeRedraw | takeStatus => exact ⟨h.limits_eq, h.size_le, h.saved_le⟩

/-- Events keep the bounds. -/
theorem Kept.handleAll (h : Kept limits bound e) (reached : Reachable e)
    (allowed : limits.maxLines ≤ bound) (one : 1 ≤ bound) (events : List Event) :
    Kept limits bound (e.handleAll events) := by
  induction events generalizing e with
  | nil => exact h
  | cons event events ih =>
    exact ih (h.handle reached.wellFormed allowed one event) (reached.handle event)

/-- The number of lines that an editor over some lines may come to. -/
def maxSize (limits : Limits) (lines : List Text) : Nat := max limits.maxLines (max lines.length 1)

/-- An editor starts within the bounds. -/
theorem kept_start (lines : List Text) (player : Player) (limits : Limits) :
    Kept limits (maxSize limits lines) (start lines player limits) where
  limits_eq := rfl
  size_le := by
    rw [start, Document.size_ofLines]
    exact Nat.le_max_right _ _
  saved_le := Nat.le_trans (Nat.le_max_left _ _) (Nat.le_max_right _ _)

/-- As many lines as are allowed are within the bounds, and so is one line. -/
theorem maxLines_le_maxSize (limits : Limits) (lines : List Text) :
    limits.maxLines ≤ maxSize limits lines ∧ 1 ≤ maxSize limits lines :=
  ⟨Nat.le_max_left _ _, Nat.le_trans (Nat.le_max_right _ _) (Nat.le_max_right _ _)⟩

namespace Checked

/-- The editor after an event, if the program gets there. -/
def handle (build : Build) (e : Editor) : Event → Except Stop Editor
  | .command command => (apply build e command).map Prod.fst
  | event => .ok (e.handle event)

/-- The editor after some events, one after the other, if the program gets there. -/
def handleAll (build : Build) (e : Editor) : List Event → Except Stop Editor
  | [] => .ok e
  | event :: events => do
    let e ← handle build e event
    handleAll build e events

end Checked

/-- A page fits before each of some events, and after them. -/
def PagesFit (e : Editor) : List Event → Prop
  | [] => e.PageFits
  | event :: events => e.PageFits ∧ (e.handle event).PagesFit events

instance decidablePagesFit : (e : Editor) → (events : List Event) → Decidable (e.PagesFit events)
  | e, [] => inferInstanceAs (Decidable e.PageFits)
  | e, event :: events =>
    have := decidablePagesFit (e.handle event) events
    inferInstanceAs (Decidable (_ ∧ _))

/-- A page that fits all the time fits in the end. -/
theorem PagesFit.last {events : List Event} (h : e.PagesFit events) :
    (e.handleAll events).PageFits := by
  induction events generalizing e with
  | nil => exact h
  | cons event events ih => exact ih h.2

variable {build : Build}

namespace Checked

variable {f : Editor} {command : Command}

/-- What a command by itself comes to has its rows in the document. -/
theorem RunsTo.wellFormed (runs : RunsTo e command f) (h : e.WellFormed)
    (mark : command.clearsMark → e.mark = none) : f.WellFormed := by
  cases runs with
  | run command => exact wellFormed_run h mark
  | page top inside => exact ⟨inside, h.mark_lt⟩

end Checked

end LootRules.Editor
