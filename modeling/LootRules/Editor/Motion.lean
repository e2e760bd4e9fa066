import LootRules.Editor.Basic

/-!
# Moving the cursor

Motions change no text, except that moving on from a last line that is not empty appends an
empty one below it. Motions up and down leave the column alone.

Rows are natural numbers here, so a page further on always is one. `Checked` has the same motions
with the words of a machine.
-/

namespace LootRules

/-- Where the cursor can be sent. -/
inductive Motion where
  | left | right | up | down | lineStart | lineEnd | pageUp | pageDown | top | bottom
  deriving DecidableEq, Repr

/-- Motions that keep the column, also beyond the end of a short line. -/
def Motion.isVertical (m : Motion) : Bool := m ∈ [up, down, pageUp, pageDown]

namespace Editor

/-- The editor with a row below the cursor, if there is or can be one. A new row is appended
below a last line that is not empty, while there is room. -/
def withRowBelow? (e : Editor) : Option Editor :=
  if e.row < e.document.lastRow then some e
  else if e.line.isEmpty || e.limits.maxLines ≤ e.document.size then none
  else
    some ({ e with document := Document.ofLines e.player (e.lines ++ [[]]) }.touch .everything)

/-- Moves the cursor. -/
def move (e : Editor) : Motion → Editor
  | .left =>
    if 0 < e.col then { e with col := e.col - 1 }
    else if 0 < e.row then
      { e with row := e.row - 1, col := e.document.columns (e.row - 1) }
    else e
  | .right =>
    if e.col < e.width then { e with col := e.col + 1 }
    else
      match e.withRowBelow? with
      | some e => { e with row := e.row + 1, col := 0 }
      | none => e
  | .up => { e with row := e.row - 1 }
  | .down =>
    match e.withRowBelow? with
    | some e => { e with row := e.row + 1 }
    | none => e
  | .lineStart => { e with col := 0 }
  | .lineEnd => { e with col := e.width }
  | .pageUp => { e with row := e.row - e.height, top := e.top - e.height }
  | .pageDown =>
    { e with
      row := min (e.row + e.height) e.document.lastRow
      top := min (e.top + e.height) e.document.lastRow }
  | .top => { e with row := 0, col := 0 }
  | .bottom => { e with row := e.document.lastRow, col := 0 }

/-- Moves the visible part as little as is needed to show the cursor. -/
def scrollToCursor (e : Editor) : Editor :=
  if e.row < e.top then { e with top := e.row }
  else if e.top + e.height ≤ e.row then { e with top := e.row + 1 - e.height }
  else e

end Editor

end LootRules
