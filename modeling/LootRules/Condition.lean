import LootRules.Text.Decimal

/-!
# Conditions

A line that starts with `?:` holds a condition, which switches the lines below it off while
it is false. A condition is a word, a variable, or an operator with operands in brackets:

    [AND [EQU $CLASS Mage] [GEQ $LEVEL 20]]

All values are texts. The text `0` is false; everything else is true, also the values that
stand for a mistake. So a condition that cannot be read leaves its lines switched on.

The reader goes through the text once, character by character. It keeps the brackets that
are still open, and every value is handed to the innermost of them together with the
character that ended it. When no bracket is open, that value is the result, and what follows
the ending character has not been read.
-/

namespace LootRules

namespace Condition

/-- The value of an operator or variable that does not exist. -/
def unknown : Text := "?o?o?"

/-- The value of a bracket without an end. -/
def unclosed : Text := "?x?x?"

/-- What a line with a condition starts with. -/
def linePrefix : Text := "?:"

/-- The condition on a line, if it holds one. -/
def ofLine? (line : Text) : Option Text := linePrefix.isPrefixOf? line

/-- Whether a value switches lines off. -/
def isFalse (value : Text) : Bool := value = ['0']

/-- A truth value as a text. -/
def truth (b : Bool) : Text := if b then ['1'] else ['0']

/-- Whether every two neighbours are in order as numbers. A neighbour without text on the
right is not compared. -/
def ordered (holds : Int → Int → Bool) (operands : List Text) : Bool :=
  (operands.zip operands.tail).all fun (a, b) =>
    b.isEmpty || holds (Text.leadingInt a) (Text.leadingInt b)

/-- The operators: `AND` (no operand is false), `IOR` (one is true and not empty), `NOT` (none
is the text `1`), `EQU` (one of the others equals the first), `LEQ` and `GEQ` (neighbours are in
order). -/
def apply (op : Text) (operands : List Text) : Text :=
  if op = "AND".toList then truth !(operands.any (· = ['0']))
  else if op = "IOR".toList then truth (operands.any fun v => !v.isEmpty && v ≠ ['0'])
  else if op = "NOT".toList then truth !(operands.any (· = ['1']))
  else if op = "EQU".toList then
    match operands with
    | [] => truth false
    | v :: vs => truth (vs.any (· = v))
  else if op = "LEQ".toList then truth (ordered (fun a b => a ≤ b) operands)
  else if op = "GEQ".toList then truth (ordered (fun a b => a ≥ b) operands)
  else unknown

/-- A bracket that is still open: its operator, once it has been read, and its operands so far,
the latest first. -/
structure Bracket where
  op : Option Text := none
  operands : List Text := []
  deriving DecidableEq, Repr

/-- What the reader is about: it waits for a value, is inside a word (kept in reverse), or has a
value that still lacks the character behind its closing bracket. -/
inductive Reading where
  | between
  | word (reversed : Text)
  | closed (value : Text)
  deriving DecidableEq, Repr

/-- Whether a character ends a word. -/
def endsWord (c : Char) : Bool := Text.isControl c || c = ' ' || c = '[' || c = ']'

/-- The value of a word: that of a variable, or the word itself. -/
def wordValue (resolve : Text → Text) : Text → Text
  | '$' :: name => resolve name
  | word => word

/-- Hands a value, ended by a character, to an open bracket. Either the bracket goes on, or it
has a value itself. It ends with a closing bracket, and without one if its operator is empty. -/
def Bracket.take (b : Bracket) (value : Text) (ending : Char) : Bracket ⊕ Text :=
  match b.op with
  | none =>
    if value.isEmpty then .inr (if ending = ']' then unknown else unclosed)
    else if ending = ']' then .inr (apply value [])
    else .inl { op := some value }
  | some op =>
    if ending = ']' then .inr (apply op (b.operands.reverse ++ [value]))
    else .inl { op := some op, operands := value :: b.operands }

/-- The value of a text that ends here: with a bracket still open it is unclosed. -/
def atEnd (resolve : Text → Text) (reading : Reading) (brackets : List Bracket) : Text :=
  match brackets, reading with
  | _ :: _, _ => unclosed
  | [], .between => wordValue resolve []
  | [], .word reversed => wordValue resolve reversed.reverse
  | [], .closed value => value

/-- Reads on from the middle of a condition. The result is its value and the text behind it. -/
def readFrom (resolve : Text → Text) (reading : Reading) (brackets : List Bracket) :
    Text → Text × Text
  | [] => (atEnd resolve reading brackets, [])
  | c :: s =>
    let deliver (value : Text) : Text × Text :=
      match brackets with
      | [] => (value, s)
      | b :: bs =>
        match b.take value c with
        | .inl b => readFrom resolve .between (b :: bs) s
        | .inr result => readFrom resolve (.closed result) bs s
    match reading with
    | .closed value => deliver value
    | .word reversed =>
      if endsWord c then deliver (wordValue resolve reversed.reverse)
      else readFrom resolve (.word (c :: reversed)) brackets s
    | .between =>
      if Text.isBlank c then readFrom resolve .between brackets s
      else if c = '[' then readFrom resolve .between ({} :: brackets) s
      else if endsWord c then deliver (wordValue resolve [])
      else readFrom resolve (.word [c]) brackets s

/-- Reads a condition: its value, and the text behind it. -/
def read (resolve : Text → Text) (s : Text) : Text × Text := readFrom resolve .between [] s

/-- The value of a condition. -/
def eval (resolve : Text → Text) (s : Text) : Text := (read resolve s).1

/-- The number of characters that belong to the condition, with the character that ends it. -/
def consumed (resolve : Text → Text) (s : Text) : Nat := s.length - (read resolve s).2.length

end Condition

end LootRules
