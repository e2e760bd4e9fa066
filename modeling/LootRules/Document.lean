import LootRules.RuleSet
import LootRules.Session
import LootRules.Text.Column

/-!
# Documents

A document is the lines of a rule file together with the state of every line: whether the
condition above it switches it off, whether it is a condition itself, and whether it belongs
to the block of registered items. The states are worked out once, when the lines change, and
then kept. A document has at least one line.
-/

namespace LootRules

/-- The state of a line. -/
structure LineState where
  /-- The condition that governs the line is false. -/
  bypass : Bool := false
  /-- The line is a condition. -/
  expression : Bool := false
  /-- The line belongs to the block of registered items. -/
  autoregister : Bool := false
  deriving DecidableEq, Repr, Inhabited

/-- The states of lines, given whether the lines above switch them off and have opened the
block of registered items. A condition already governs its own line. -/
def lineStatesAfter (player : Player) (off registered : Bool) : List Text → List LineState
  | [] => []
  | line :: lines =>
    let registered := registered || line = registerHeader
    match Condition.ofLine? line with
    | some condition =>
      let off := Condition.isFalse (player.eval condition)
      ⟨off, true, registered⟩ :: lineStatesAfter player off registered lines
    | none => ⟨off, false, registered⟩ :: lineStatesAfter player off registered lines

/-- The states of all lines of a file. -/
def lineStates (player : Player) (lines : List Text) : List LineState :=
  lineStatesAfter player false false lines

/-- Every line gets one state. -/
theorem lineStatesAfter_length (player : Player) (off registered : Bool) (lines : List Text) :
    (lineStatesAfter player off registered lines).length = lines.length := by
  induction lines generalizing off registered with
  | nil => rfl
  | cons line lines ih =>
    simp only [lineStatesAfter]
    split <;> simp [ih]

/-- Lines with their states. -/
structure Document where
  lines : List Text
  states : List LineState
  deriving DecidableEq

namespace Document

/-- The document of some lines; without any, it has one empty line. -/
def ofLines (player : Player) (lines : List Text) : Document :=
  let lines := if lines.isEmpty then [[]] else lines
  ⟨lines, lineStates player lines⟩

/-- A document has a line. -/
theorem ofLines_lines_ne_nil (player : Player) (lines : List Text) :
    (ofLines player lines).lines ≠ [] := by
  cases lines <;> simp [ofLines]

/-- A document has one state per line. -/
theorem ofLines_states_length (player : Player) (lines : List Text) :
    (ofLines player lines).states.length = (ofLines player lines).lines.length :=
  lineStatesAfter_length player false false _

/-- The number of lines. -/
def size (d : Document) : Nat := d.lines.length

/-- The last row. -/
def lastRow (d : Document) : Nat := d.size - 1

/-- The text of a row; empty beyond the last. -/
def line (d : Document) (row : Nat) : Text := d.lines.getD row []

/-- The state of a row; that of an ordinary line beyond the last. -/
def state (d : Document) (row : Nat) : LineState := d.states.getD row {}

/-- The number of columns of a row. -/
def columns (d : Document) (row : Nat) : Nat := Text.columns (d.line row)

end Document

end LootRules
