import LootRules.Editor.Basic

/-!
# Cut, copy and paste

Cutting and copying work on the region between mark and cursor. A region within one line is
a span of columns; a region that covers a whole line, or reaches over several lines, is made
of whole rows, and so is the cursor's own row when there is no mark.
-/

namespace LootRules

/-- What cutting and copying work on. -/
inductive Region where
  | rows (first last : Nat)
  | span (row first last : Nat)
  deriving DecidableEq, Repr

namespace Editor

/-- The first and the last row between mark and cursor. -/
def blockRows (e : Editor) : Nat × Nat :=
  match e.mark with
  | none => (e.row, e.row)
  | some (row, _) => (min row e.row, max row e.row)

/-- The region between mark and cursor. -/
def region (e : Editor) : Region :=
  match e.mark with
  | none => .rows e.row e.row
  | some (row, col) =>
    if row ≠ e.row then .rows (min row e.row) (max row e.row)
    else
      let first := min col e.col
      let last := min (max col e.col) e.width
      if first = 0 && last = e.width then .rows e.row e.row else .span e.row first last

/-- The text of a region, as it is pasted. -/
def regionYank (e : Editor) : Region → Yank
  | .rows first last => .ofLines ((e.lines.drop first).take (last + 1 - first))
  | .span row first last => .ofSpan (Text.betweenColumns first last (e.document.line row))

/-- Copies the region and clears the mark. Without a mark the cursor goes to the start of its
line. -/
def copy (e : Editor) : Editor :=
  { e with
    yank := e.regionYank e.region
    col := if e.mark.isNone then 0 else e.col
    mark := none }.touch .everything

/-- Copies the region and deletes it. Of rows that reach to the end of the document an empty
line remains. -/
def cut (e : Editor) : Editor :=
  match e.region with
  | .rows first last =>
    { e.copy with row := first, col := 0 }.edit
      (e.lines.take first ++
        if last = e.document.lastRow then [[]] else e.lines.drop (last + 1))
      .everything
  | .span row first last =>
    { e.copy with col := first }.edit
      (e.lines.set row (Text.eraseColumns first last (e.document.line row))) .everything

/-- Puts text before the first of some pieces. -/
def prependFirst (text : Text) : List Text → List Text
  | [] => [text]
  | piece :: pieces => (text ++ piece) :: pieces

/-- Puts in the yank buffer at the cursor, which ends up behind what was put in. -/
def paste (e : Editor) : Editor :=
  if e.yank.isEmpty then e
  else
    let pieces := e.yank.segments ++ if e.yank.endsWithBreak then [[]] else []
    let breaks := pieces.length - 1
    if e.limits.maxLines < e.document.size + breaks then e.refuse
    else
      let pieces := prependFirst (Text.beforeColumn e.col e.line) pieces
      { e with row := e.row + breaks, col := Text.columns (pieces.getLast?.getD []) }.edit
        (e.lines.take e.row ++ Yank.extendLast (Text.fromColumn e.col e.line) pieces ++
          e.lines.drop (e.row + 1))
        .everything

end Editor

end LootRules
