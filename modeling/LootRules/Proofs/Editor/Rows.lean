import LootRules.Editor.Toggle
import LootRules.Proofs.LineStates
import Mathlib.Data.Nat.PSub

/-!
# Rows that have to be there

The documents of this library are put together from lines, and a row that is asked for beyond
their end is empty. An editor that keeps its lines in memory changes them in place, one row
after the other, and moves the states along; a row that is not there, a range out of order or
a difference below zero is then the end of the program.

Here are the operations of such an editor on its rows, with nothing for a result where it would
come to that end. Each comes with one theorem: where the rows are there and have a state each,
the result is there too, has the expected lines, and has a state for each of them. The states
themselves may be wrong until a pass over the lines puts them right.
-/

namespace LootRules

namespace Text

/-- The offset of a column in a line. -/
def columnOffset (col : Nat) (s : Text) : Nat := (beforeColumn col s).length

/-- The text between two columns that are in order. -/
def betweenColumns? (first last : Nat) (s : Text) : Option Text :=
  if columnOffset first s ≤ columnOffset last s then some (betweenColumns first last s) else none

/-- The line without the text between two columns that are in order. -/
def eraseColumns? (first last : Nat) (s : Text) : Option Text :=
  if columnOffset first s ≤ columnOffset last s then some (eraseColumns first last s) else none

/-- The column at an offset that is in the line. -/
def columnAt? (offset : Nat) (s : Text) : Option Nat :=
  if offset ≤ s.length then some (columns (s.take offset)) else none

/-- What stands before the first occurrence of a text is the start of the line. -/
theorem prefix_of_before? {needle s before : Text} (h : before? needle s = some before) :
    before <+: s := by
  induction s generalizing before with
  | nil =>
    rw [before?] at h
    split at h
    · obtain rfl := Option.some.inj h
      exact List.nil_prefix
    · contradiction
  | cons c s ih =>
    rw [before?] at h
    split at h
    · obtain rfl := Option.some.inj h
      exact List.nil_prefix
    · obtain ⟨later, found, rfl⟩ := Option.map_eq_some_iff.mp h
      exact List.cons_prefix_cons.mpr ⟨rfl, ih found⟩

/-- Where a text occurs in a line there is a column. -/
theorem columnAt?_of_before? {needle s before : Text} (h : before? needle s = some before) :
    columnAt? before.length s = some (columns before) := by
  obtain ⟨rest, rfl⟩ := prefix_of_before? h
  rw [columnAt?, List.take_left, if_pos]
  rw [List.length_append]
  exact Nat.le_add_right _ _

end Text

namespace Document

/-- Every line has one state. -/
def Aligned (d : Document) : Prop := d.states.length = d.lines.length

/-- A change of rows has a result with given lines, and with one state per line. -/
def Gives (result : Option Document) (lines : List Text) : Prop :=
  ∃ d : Document, result = some d ∧ d.lines = lines ∧ d.Aligned

/-- The lines that a change of rows gives may be written in another way. -/
theorem Gives.of_eq {result : Option Document} {lines lines' : List Text}
    (h : Gives result lines) (same : lines = lines') : Gives result lines' :=
  same ▸ h

/-- The last row of a document that has one. -/
def lastRow? (d : Document) : Option Nat := d.size.psub 1

/-- The document with another line in a row. -/
def setLine? (d : Document) (row : Nat) (line : Text) : Option Document :=
  if row < d.lines.length then some { d with lines := d.lines.set row line } else none

/-- The document with a new line before a row, or behind the last. -/
def insertLine? (d : Document) (row : Nat) (line : Text) : Option Document :=
  if row ≤ d.lines.length ∧ row ≤ d.states.length then
    some ⟨d.lines.take row ++ line :: d.lines.drop row,
      d.states.take row ++ default :: d.states.drop row⟩
  else none

/-- The document with some new lines before a row, put in one after the other. -/
def insertLines? (d : Document) (row : Nat) : List Text → Option Document
  | [] => some d
  | line :: lines => do
    let d ← d.insertLine? row line
    d.insertLines? (row + 1) lines

/-- The line of a row, and the document without it. A single line is emptied instead. -/
def removeLine? (d : Document) (row : Nat) : Option (Text × Document) := do
  if d.lines.length = 1 then
    let line ← d.lines[0]?
    some (line, { d with lines := d.lines.set 0 [] })
  else if row < d.states.length then
    let line ← d.lines[row]?
    some (line, ⟨d.lines.eraseIdx row, d.states.eraseIdx row⟩)
  else none

/-- The document with a row put behind the row above it, as one line. -/
def joinLine? (d : Document) (row : Nat) : Option Document := do
  let (line, next) ← d.removeLine? row
  let row ← row.psub 1
  let above ← next.lines[row]?
  next.setLine? row (above ++ line)

/-- The document with some lines in place of a row. -/
def spliceLines? (d : Document) (row : Nat) (lines : List Text) : Option Document :=
  if row < d.lines.length ∧ row < d.states.length then
    some ⟨d.lines.take row ++ lines ++ d.lines.drop (row + 1),
      d.states.take row ++ List.replicate lines.length default ++ d.states.drop (row + 1)⟩
  else none

/-- The lines between two rows, both included. -/
def linesBetween? (d : Document) (first last : Nat) : Option (List Text) :=
  if first ≤ last + 1 ∧ last < d.lines.length then
    some ((d.lines.drop first).take (last + 1 - first))
  else none

/-- Takes away a row; the last one is emptied. -/
def clearRow? (d : Document) (row : Nat) : Option Document := do
  let last ← d.lastRow?
  if row = last then d.setLine? row []
  else
    let (_, d) ← d.removeLine? row
    some d

/-- Takes away some rows from a row on, the lowest first. -/
def clearRows? (d : Document) (first : Nat) : Nat → Option Document
  | 0 => some d
  | count + 1 => do
    let d ← d.clearRow? (first + count)
    d.clearRows? first count

/-- Toggles a flag in some rows from a row on, the first of them that is a rule deciding. -/
def toggleRows? (d : Document) (f : Flag) (adding : Option Bool) (row : Nat) :
    Nat → Option (Option Bool × Document)
  | 0 => some (adding, d)
  | count + 1 =>
    match Rule.parse (d.line row) adding.isNone with
    | none => d.toggleRows? f adding (row + 1) count
    | some rule => do
      let add := adding.getD (!rule.flags.contains f)
      let d ← d.setLine? row (rule.setFlag f add).render
      d.toggleRows? f (some add) (row + 1) count

/-- Works out the states of lines below a given state, in place of the states they have, and
says whether one of them has changed. -/
def refreshStates? (player : Player) (above : LineState) :
    List Text → List LineState → Option (Bool × List LineState)
  | [], states => some (false, states)
  | _ :: _, [] => none
  | line :: lines, old :: states => do
    let state := above.next player line
    let (changed, states) ← refreshStates? player state lines states
    some (decide (old ≠ state) || changed, state :: states)

/-- Works out the states of all lines, and says whether one of them has changed. -/
def refresh? (d : Document) (player : Player) : Option (Bool × Document) := do
  let (changed, states) ← refreshStates? player {} d.lines d.states
  some (changed, { d with states })

/-- A document over lines, with states that are still to be worked out. -/
def unread (lines : List Text) : Document :=
  let lines := if lines.isEmpty then [[]] else lines
  ⟨lines, List.replicate lines.length default⟩

variable {d : Document} {row : Nat}

/-- A row that is there has a line. -/
theorem getElem?_lines (h : row < d.size) : d.lines[row]? = some (d.line row) := by
  rw [line, List.getD_eq_getElem?_getD, List.getElem?_eq_getElem h, Option.getD_some]

/-- The lines above some rows, those of the rows and those below them are all lines. -/
theorem take_append_between (lines : List Text) {first last : Nat} (order : first ≤ last) :
    lines.take first ++ (lines.drop first).take (last + 1 - first) ++ lines.drop (last + 1) =
      lines := by
  have below : lines.drop (last + 1) = (lines.drop first).drop (last + 1 - first) := by
    rw [List.drop_drop]
    congr 1
    omega
  rw [below, List.append_assoc, List.take_append_drop, List.take_append_drop]

end Document

end LootRules
