import LootRules.Proofs.Text
import Mathlib.Data.List.TakeWhile
import Mathlib.Data.Nat.Digits.Defs

/-!
# Integers at the start of a text

A text begins with an integer if there are digits in it with nothing before them but blanks and at
most one sign. The digits go on to the first character that is none, and each of them counts by its
place. A text that begins with no integer stands for zero.

This is what comparisons are meant to go by. The lenient reader arrives at the same number as long
as that fits a signed word of 64 bits, and at zero where it does not.
-/

namespace LootRules.Text

/-- What may stand in front of the digits of an integer. -/
inductive Sign where
  | absent | plus | minus
  deriving DecidableEq, Repr

namespace Sign

/-- How a sign is written. -/
def text : Sign → Text
  | absent => []
  | plus => ['+']
  | minus => ['-']

/-- What the number behind a sign is multiplied by. -/
def factor : Sign → Int
  | absent | plus => 1
  | minus => -1

/-- The sign that a text begins with. -/
def ofText (s : Text) : Sign :=
  if s.head? = some '-' then minus else if s.head? = some '+' then plus else absent

end Sign

/-- What digits stand for by their places, the last of them for the units. -/
def placeValue (digits : Text) : Nat :=
  Nat.ofDigits 10 (digits.reverse.map fun c => c.toNat - '0'.toNat)

/-- A text begins with an integer: blanks, a sign and digits, and no further digit. -/
inductive BeginsWith : Text → Int → Prop
  | intro {blanks digits rest : Text} (sign : Sign) (blank : ∀ c ∈ blanks, isBlank c)
    (nonempty : digits ≠ []) (digit : ∀ c ∈ digits, c.isDigit)
    (stop : ∀ c ∈ rest.head?, c.isDigit = false) :
    BeginsWith (blanks ++ (sign.text ++ (digits ++ rest))) (sign.factor * placeValue digits)

/-- The sign of the integer at the start of a text. -/
def signOf (s : Text) : Sign := .ofText (s.dropWhile isBlank)

/-- What is left of a text behind blanks and a sign. -/
def behindSign (s : Text) : Text := (s.dropWhile isBlank).drop (signOf s).text.length

/-- The integer at the start of a text, and zero if there is none. -/
def integer (s : Text) : Int :=
  (signOf s).factor * placeValue ((behindSign s).takeWhile Char.isDigit)

/-- The first number that does not fit a signed word of 64 bits. -/
def wordLimit : Nat := 0x8000000000000000

/-- What the lenient reader takes a number for. -/
def leniently (n : Nat) : Nat := if n < wordLimit then n else 0

/-- The integer at the start of a text if it fits a signed word of 64 bits, and else zero. -/
def lenientInteger (s : Text) : Int := if (integer s).natAbs < wordLimit then integer s else 0

variable {s digits rest : Text} {n : Int}

/-! ## The integer that a text begins with -/

/-- A digit is no blank. -/
theorem isBlank_of_isDigit {c : Char} (h : c.isDigit) : isBlank c = false := by
  have codes := Char.isDigit_iff_toNat.mp h
  simp only [Char.reduceToNat] at codes
  simp only [isBlank, blankRanges, CodeRanges.covers, Bool.and_eq_false_iff, Bool.or_eq_false_iff,
    decide_eq_false_iff_not]
  omega

/-- No digit is a sign. -/
theorem ne_sign_of_isDigit {c : Char} (h : c.isDigit) : c ≠ '-' ∧ c ≠ '+' := by
  constructor <;> (rintro rfl; contradiction)

/-- In front of digits, a sign is found. -/
theorem Sign.ofText_append (sign : Sign) (nonempty : digits ≠ [])
    (digit : ∀ c ∈ digits, c.isDigit) :
    ofText (sign.text ++ (digits ++ rest)) = sign := by
  obtain ⟨c, digits, rfl⟩ := List.exists_cons_of_ne_nil nonempty
  obtain ⟨noMinus, noPlus⟩ := ne_sign_of_isDigit (digit c List.mem_cons_self)
  cases sign with
  | absent => simp [ofText, text, noMinus, noPlus]
  | plus | minus => rfl

/-- A text begins with the sign that is found there. -/
theorem Sign.text_ofText_append (s : Text) :
    (ofText s).text ++ s.drop (ofText s).text.length = s := by
  cases s with
  | nil => rfl
  | cons c s =>
    rw [ofText]
    split
    · next minus => rw [Option.some.inj minus]; rfl
    · split
      · next plus => rw [Option.some.inj plus]; rfl
      · rfl

/-- No number begins with a blank, with or without a sign. -/
theorem Sign.isBlank_head?_append (sign : Sign) (nonempty : digits ≠ [])
    (digit : ∀ c ∈ digits, c.isDigit) :
    ∀ c ∈ (sign.text ++ (digits ++ rest)).head?, isBlank c = false := by
  obtain ⟨d, digits, rfl⟩ := List.exists_cons_of_ne_nil nonempty
  intro c first
  cases sign with
  | absent => exact Option.some.inj first ▸ isBlank_of_isDigit (digit d List.mem_cons_self)
  | plus | minus => exact Option.some.inj first ▸ rfl

/-- The characters of a kind are taken up to one that is not of it, and dropped up to there. -/
theorem span_append {kind : Char → Bool} (inside : ∀ c ∈ s, kind c)
    (stop : ∀ c ∈ rest.head?, kind c = false) :
    (s ++ rest).takeWhile kind = s ∧ (s ++ rest).dropWhile kind = rest := by
  rw [List.takeWhile_append_of_pos inside, List.dropWhile_append_of_pos inside]
  cases rest with
  | nil => exact ⟨List.append_nil s, rfl⟩
  | cons c rest =>
    have other : ¬kind c := Bool.eq_false_iff.mp (stop c rfl)
    rw [List.takeWhile_cons_of_neg other, List.dropWhile_cons_of_neg other, List.append_nil]
    exact ⟨rfl, rfl⟩

/-- Behind blanks, the sign and the digits of an integer are found. -/
theorem signOf_behindSign_append {blanks : Text} (blank : ∀ c ∈ blanks, isBlank c) (sign : Sign)
    (nonempty : digits ≠ []) (digit : ∀ c ∈ digits, c.isDigit)
    (stop : ∀ c ∈ rest.head?, c.isDigit = false) :
    signOf (blanks ++ (sign.text ++ (digits ++ rest))) = sign ∧
      (behindSign (blanks ++ (sign.text ++ (digits ++ rest)))).takeWhile Char.isDigit = digits := by
  have body : (blanks ++ (sign.text ++ (digits ++ rest))).dropWhile isBlank =
      sign.text ++ (digits ++ rest) :=
    (span_append blank (sign.isBlank_head?_append nonempty digit)).2
  have found : signOf (blanks ++ (sign.text ++ (digits ++ rest))) = sign := by
    rw [signOf, body, sign.ofText_append nonempty digit]
  rw [behindSign, found, body, List.drop_left]
  exact ⟨rfl, (span_append digit stop).1⟩

/-- A text that begins with an integer has digits behind blanks and a sign. -/
theorem BeginsWith.digits_ne_nil (h : BeginsWith s n) :
    (behindSign s).takeWhile Char.isDigit ≠ [] := by
  obtain ⟨sign, blank, nonempty, digit, stop⟩ := h
  rw [(signOf_behindSign_append blank sign nonempty digit stop).2]
  exact nonempty

/-- The integer of a text is the one that the text begins with. -/
theorem BeginsWith.integer_eq (h : BeginsWith s n) : integer s = n := by
  obtain ⟨sign, blank, nonempty, digit, stop⟩ := h
  obtain ⟨found, run⟩ := signOf_behindSign_append blank sign nonempty digit stop
  rw [integer, found, run]

/-- If there are digits behind blanks and a sign, a text begins with its integer. -/
theorem beginsWith_integer (nonempty : (behindSign s).takeWhile Char.isDigit ≠ []) :
    BeginsWith s (integer s) := by
  have whole : s.takeWhile isBlank ++ ((signOf s).text ++
      ((behindSign s).takeWhile Char.isDigit ++ (behindSign s).dropWhile Char.isDigit)) = s := by
    rw [List.takeWhile_append_dropWhile, behindSign, signOf, Sign.text_ofText_append,
      List.takeWhile_append_dropWhile]
  have blank : ∀ c ∈ s.takeWhile isBlank, isBlank c := fun c mem => List.mem_takeWhile_imp mem
  have digit : ∀ c ∈ (behindSign s).takeWhile Char.isDigit, c.isDigit :=
    fun c mem => List.mem_takeWhile_imp mem
  have begins := BeginsWith.intro (signOf s) blank nonempty digit
    (eq_false_of_mem_head?_dropWhile Char.isDigit (behindSign s))
  rw [whole] at begins
  exact begins

/-- So there is exactly one integer to a text: the one that it begins with, or zero if it begins
with none. -/
theorem integer_eq_iff :
    integer s = n ↔ BeginsWith s n ∨ n = 0 ∧ ∀ m, ¬BeginsWith s m := by
  by_cases empty : (behindSign s).takeWhile Char.isDigit = []
  · have absent : ∀ m, ¬BeginsWith s m := fun _ begins => begins.digits_ne_nil empty
    have zero : integer s = 0 := by
      rw [integer, empty]
      exact Int.mul_zero _
    rw [zero, or_iff_right (absent n), and_iff_left absent]
    exact eq_comm
  · have begins := beginsWith_integer empty
    constructor
    · rintro rfl
      exact .inl begins
    · rintro (other | ⟨-, absent⟩)
      · exact other.integer_eq
      · exact absurd begins (absent _)

/-! ## The lenient reader -/

/-- Read from the left, digits have the value that their places give them. -/
theorem digitsValue_eq_placeValue (digits : Text) : digitsValue digits = placeValue digits := by
  rw [digitsValue, Nat.ofDigitChars_eq_foldl, placeValue, Nat.ofDigits_eq_foldr, List.foldr_map,
    List.foldr_reverse]
  refine congrArg (List.foldl · 0 digits) (funext₂ fun value c => ?_)
  rw [Nat.cast_id, Nat.add_comm]

/-- A factor that is a sign keeps a number in its range. -/
theorem Sign.ite_factor (sign : Sign) (m : Nat) :
    (if (sign.factor * m).natAbs < wordLimit then sign.factor * m else 0 : Int) =
      sign.factor * leniently m := by
  have size : (sign.factor * m).natAbs = m := by
    cases sign <;> simp [factor]
  rw [size, leniently]
  split
  · rfl
  · exact (Int.mul_zero _).symm

/-- The lenient reader takes a text for its integer if that fits a word, and else for zero. -/
theorem leadingInt_eq_lenientInteger (s : Text) : leadingInt s = lenientInteger s := by
  have number (digits : Text) :
      leadingNat digits = leniently (placeValue (digits.takeWhile Char.isDigit)) := by
    rw [← digitsValue_eq_placeValue]
    rfl
  rw [lenientInteger, integer, Sign.ite_factor, behindSign, signOf, ← number, leadingInt, trimStart]
  split
  · next digits minus =>
    rw [minus]
    exact (Int.neg_one_mul _).symm
  · next digits plus =>
    rw [plus]
    exact (Int.one_mul _).symm
  · next noMinus noPlus =>
    have absent : Sign.ofText (s.dropWhile isBlank) = .absent := by
      cases body : s.dropWhile isBlank with
      | nil => rfl
      | cons c rest =>
        have minus : c ≠ '-' := fun same => noMinus rest (same ▸ body)
        have plus : c ≠ '+' := fun same => noPlus rest (same ▸ body)
        simp [Sign.ofText, minus, plus]
    rw [absent]
    exact (Int.one_mul _).symm

/-- A text with an integer of a word at its start is taken for that. -/
theorem lenientInteger_of_lt (h : (integer s).natAbs < wordLimit) : lenientInteger s = integer s :=
  if_pos h

end LootRules.Text
