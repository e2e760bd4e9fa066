import LootRules.Document
import LootRules.RuleFile
import LootRules.Yank

/-!
# The editor

An editor holds a document, a cursor, perhaps a mark, the part of the document that is
visible, and what is needed to paste, to search and to go back to the saved text. For
whoever draws it, it collects what has changed on the screen, and for the player a message.

The column of the cursor may lie beyond the end of its line, where it waits for a longer
line while the cursor moves up and down. The first command that is no such motion brings it
back.

All changes of the text go through `edit`, which also works out the new line states.
-/

namespace LootRules

/-- What has to be drawn anew. -/
inductive Redraw where
  | nothing
  | line (row : Nat)
  | everything
  deriving DecidableEq, Repr, Inhabited

/-- What has to be drawn after two changes. -/
def Redraw.merge : Redraw → Redraw → Redraw
  | nothing, d => d
  | d, nothing => d
  | line a, line b => if a = b then line a else everything
  | _, _ => everything

/-- A message for the player. -/
inductive Status where
  | notFound
  | noSearchTarget
  /-- Found, but lines that are switched off were passed over. -/
  | skippedInactive
  /-- Found only on a line that is switched off. -/
  | foundOnlyInactive
  | nothingDestroyed
  /-- The document or the line is full. -/
  | capacityReached
  deriving DecidableEq, Repr

/-- What a search looks for. -/
inductive SearchTarget where
  | text (needle : Text)
  | item (item : Item)
  deriving DecidableEq

/-- A document being edited. -/
structure Editor where
  document : Document
  row : Nat := 0
  col : Nat := 0
  /-- Row and column of the other end of the selection. -/
  mark : Option (Nat × Nat) := none
  /-- The first visible row. -/
  top : Nat := 0
  yank : Yank := {}
  redraw : Redraw := .everything
  status : Option Status := none
  /-- The text may differ from what was loaded or saved last. -/
  changed : Bool := false
  /-- The lines as loaded or saved last. -/
  saved : List Text
  /-- The last command was a kill. -/
  killing : Bool := false
  target : Option SearchTarget := none
  lastDestroyed : Option Item := none
  player : Player
  limits : Limits
  deriving DecidableEq

namespace Editor

/-- An editor over lines. A block of registered items among them counts for the conditions. -/
def start (lines : List Text) (player : Player) (limits : Limits) : Editor :=
  let player :=
    { player with autoregister := player.autoregister || lines.any (· = registerHeader) }
  { document := Document.ofLines player lines, saved := lines, player, limits }

/-- The lines of the document. -/
def lines (e : Editor) : List Text := e.document.lines

/-- The line of the cursor. -/
def line (e : Editor) : Text := e.document.line e.row

/-- The number of columns in the line of the cursor. -/
def width (e : Editor) : Nat := Text.columns e.line

/-- Row and column of the cursor, the column at most the end of its line. -/
def cursor (e : Editor) : Nat × Nat := (e.row, min e.col e.width)

/-- The number of rows that are visible at once. It is a setting, and no document bounds it: see
`PageFits` for what that means where rows are words of a machine. -/
def height (e : Editor) : Nat := max e.limits.pageRows 1

/-- Adds to what has to be drawn. -/
def touch (e : Editor) (redraw : Redraw) : Editor := { e with redraw := e.redraw.merge redraw }

/-- Leaves everything as it is, for lack of room. -/
def refuse (e : Editor) : Editor := { e with status := some .capacityReached }

/-- Puts new lines in place of the old ones, on the screen at least where `redraw` says. If
that changes the state of a line, everything has to be drawn. -/
def edit (e : Editor) (lines : List Text) (redraw : Redraw) : Editor :=
  let document := Document.ofLines e.player lines
  let states := if document.states = e.document.states then .nothing else .everything
  { e with document, changed := true }.touch redraw |>.touch states

/-- Remembers the present text as saved. -/
def markSaved (e : Editor) : Editor := { e with saved := e.lines, changed := false }

/-- Remembers an item as the one destroyed last. -/
def setLastDestroyed (e : Editor) (item : Item) : Editor := { e with lastDestroyed := some item }

/-- What has to be drawn since this was asked last. -/
def takeRedraw (e : Editor) : Redraw × Editor := (e.redraw, { e with redraw := .nothing })

/-- The message since this was asked last. -/
def takeStatus (e : Editor) : Option Status × Editor := (e.status, { e with status := none })

/-- Goes back to the saved text. -/
def revert (e : Editor) : Editor :=
  { e with
    document := Document.ofLines e.player e.saved
    row := 0, col := 0, top := 0, mark := none, changed := false }.touch .everything

end Editor

/-- An editor over lines, with the player and the destroyed item of a session. -/
def Session.editor (s : Session) (lines : List Text) (limits : Limits) : Editor :=
  { Editor.start lines s.player limits with lastDestroyed := s.lastDestroyed }

end LootRules
