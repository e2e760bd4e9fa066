import LootRules.Proofs.Text.Integer

/-!
# Numbers read back from text

A number in decimal may have zeros in front of it, and numbers that are filled up to a width have.
They do not count when it is read. What does is whether the number fits a signed word of 64 bits:
the lenient reader takes a larger one for zero.
-/

namespace LootRules.Text

/-- A number in decimal with so many zeros in front. -/
def numeral (zeros n : Nat) : Text := List.replicate zeros '0' ++ decimal n

/-- Filling a number up to a width puts zeros in front of it. -/
theorem zeroPadded_eq_numeral (width n : Nat) :
    zeroPadded width n = numeral (width - (decimal n).length) n := rfl

variable {zeros n : Nat}

/-- A numeral has only digits. -/
theorem isDigit_of_mem_numeral {c : Char} (h : c ∈ numeral zeros n) : c.isDigit := by
  rcases List.mem_append.mp h with zero | digit
  · rw [List.eq_of_mem_replicate zero]
    rfl
  · exact isDigit_of_mem_decimal digit

/-- A numeral has a digit. -/
theorem numeral_ne_nil : numeral zeros n ≠ [] :=
  List.append_ne_nil_of_right_ne_nil _ (List.ne_nil_of_length_pos Nat.length_toDigits_pos)

/-- Zeros in front of a number do not change it. -/
theorem digitsValue_numeral : digitsValue (numeral zeros n) = n := by
  rw [digitsValue, numeral, Nat.ofDigitChars_append, Nat.ofDigitChars_replicate_zero, Nat.mul_zero]
  exact digitsValue_decimal n

/-- A numeral begins with its number. -/
theorem beginsWith_numeral : BeginsWith (numeral zeros n) n := by
  have blank : ∀ c ∈ ([] : Text), isBlank c := nofun
  have digit : ∀ c ∈ numeral zeros n, c.isDigit := fun c => isDigit_of_mem_numeral
  have stop : ∀ c ∈ ([] : Text).head?, c.isDigit = false := nofun
  have begins := BeginsWith.intro .absent blank numeral_ne_nil digit stop
  rw [List.append_nil, ← digitsValue_eq_placeValue, digitsValue_numeral, Sign.factor,
    Int.one_mul] at begins
  exact begins

/-- A numeral is taken for its number, if that is not too large. -/
theorem lenientInteger_numeral : lenientInteger (numeral zeros n) = leniently n := by
  rw [lenientInteger, beginsWith_numeral.integer_eq, Int.natAbs_natCast, leniently, Nat.cast_ite]
  rfl

end LootRules.Text
