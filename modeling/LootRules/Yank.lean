import LootRules.Text

/-!
# The yank buffer

What was cut, copied or killed last, waiting to be pasted: segments with a line break
between neighbours, and perhaps one more at the end. Whole lines end in a break; a span
within a line does not. Kills in a row add to the buffer.
-/

namespace LootRules

/-- Text to paste: segments, and whether a line break follows the last of them. -/
structure Yank where
  segments : List Text := []
  endsWithBreak : Bool := false
  deriving DecidableEq, Repr, Inhabited

namespace Yank

/-- Whether there is nothing to paste. -/
def isEmpty (y : Yank) : Bool := y.segments.isEmpty

/-- Whole lines. -/
def ofLines (lines : List Text) : Yank := ⟨lines, true⟩

/-- A span within a line. -/
def ofSpan (span : Text) : Yank := ⟨[span], false⟩

/-- Appends text to the last of some segments. -/
def extendLast (text : Text) : List Text → List Text
  | [] => [text]
  | [last] => [last ++ text]
  | first :: next :: rest => first :: extendLast text (next :: rest)

/-- The buffer with more text behind it. -/
def pushText (y : Yank) (text : Text) : Yank :=
  if y.endsWithBreak then ⟨y.segments ++ [text], false⟩
  else ⟨extendLast text y.segments, false⟩

/-- The buffer with a line break behind it. -/
def pushBreak (y : Yank) : Yank :=
  if y.segments.isEmpty || y.endsWithBreak then ⟨y.segments ++ [[]], true⟩
  else ⟨y.segments, true⟩

end Yank

end LootRules
