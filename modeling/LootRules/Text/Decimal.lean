import LootRules.Text.Blank

/-!
# Decimal numbers in text

Numbers are written with the digits 0 to 9, on demand filled up with zeros or spaces to a
least width. They are read in two ways: strictly, where the whole text has to be a number
below a bound, and leniently, where only the start of the text counts and anything that is
no number is zero.
-/

namespace LootRules.Text

/-- The decimal digits of a number, without leading zeros. -/
def decimal (n : Nat) : Text := Nat.toDigits 10 n

/-- The decimal digits of a number, with leading zeros up to the width. -/
def zeroPadded (width n : Nat) : Text := (decimal n).leftpad width '0'

/-- The decimal digits of a number, with leading spaces up to the width. -/
def rightAligned (width n : Nat) : Text := (decimal n).leftpad width ' '

/-- The value of a run of decimal digits. -/
def digitsValue (digits : Text) : Nat := Nat.ofDigitChars 10 digits 0

/-- A number below `bound`: an optional plus sign and then digits only, at least one. -/
def natBelow? (bound : Nat) (s : Text) : Option Nat :=
  let digits := ("+".toList.isPrefixOf? s).getD s
  if !digits.isEmpty && digits.all Char.isDigit && digitsValue digits < bound then
    some (digitsValue digits)
  else none

/-- The digits at the start of a text as a number; zero when there are none, and also when
they do not fit a signed 64-bit number. -/
def leadingNat (s : Text) : Nat :=
  let n := digitsValue (s.takeWhile Char.isDigit)
  if n < 0x8000000000000000 then n else 0

/-- The integer at the start of a text, behind blanks and at most one sign; zero when there
is none. -/
def leadingInt (s : Text) : Int :=
  match trimStart s with
  | '-' :: digits => -(leadingNat digits : Int)
  | '+' :: digits => leadingNat digits
  | digits => leadingNat digits

end LootRules.Text
