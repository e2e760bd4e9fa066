import LootRules.Text
import LootRules.Text.CodeRange

/-!
# Blank characters

The blanks are the 25 characters of the Unicode property `White_Space`. Conditions skip them
before a value, and numbers on a command line may stand between them.
-/

namespace LootRules.Text

/-- The code points with the property `White_Space`. -/
def blankRanges : CodeRanges :=
  [(0x09, 0x0D), (0x20, 0x20), (0x85, 0x85), (0xA0, 0xA0), (0x1680, 0x1680), (0x2000, 0x200A),
   (0x2028, 0x2029), (0x202F, 0x202F), (0x205F, 0x205F), (0x3000, 0x3000)]

/-- Whether the character is a blank. -/
def isBlank (c : Char) : Bool := blankRanges.covers c.toNat

/-- The text without its leading blanks. -/
def trimStart (s : Text) : Text := s.dropWhile isBlank

/-- The text without its leading and trailing blanks. -/
def trim (s : Text) : Text := (trimStart (trimStart s).reverse).reverse

end LootRules.Text
