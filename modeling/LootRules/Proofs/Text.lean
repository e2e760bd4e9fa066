import LootRules.Text.Decimal

/-!
# Parts of a text

What occurs in a text stands somewhere in it. Splitting at the first mark undoes putting a
mark behind a text without it. Lowering the letters A to Z leaves none of them and changes no
other character. A number of one or two digits is below one hundred, and the digits of a
number are read as that number.
-/

namespace LootRules.Text

/-- The characters of a kind are dropped up to one that is not of it. -/
theorem eq_false_of_mem_head?_dropWhile (kind : Char → Bool) (s : Text) :
    ∀ c ∈ (s.dropWhile kind).head?, kind c = false := by
  intro c first
  have stop := List.head?_dropWhile_not kind s
  rw [Option.mem_def.mp first] at stop
  exact stop

/-- A text occurs in another if it stands somewhere in it. -/
theorem occurs_iff {needle s : Text} : occurs needle s ↔ needle <:+: s := by
  rw [occurs]
  induction s with
  | nil =>
    rw [before?, List.infix_nil, ← List.isEmpty_iff]
    cases needle.isEmpty <;> simp
  | cons c s ih =>
    rw [before?, List.infix_cons_iff, ← List.isPrefixOf_iff_prefix, ← ih]
    cases needle.isPrefixOf (c :: s) <;> simp

/-- What stands before the first mark does not hold the mark. -/
theorem not_mem_splitFirst (mark : Char) (s : Text) : mark ∉ (splitFirst mark s).1 := by
  induction s with
  | nil => simp [splitFirst]
  | cons c s ih =>
    rw [splitFirst]
    split
    · simp
    · next differ =>
      rw [List.mem_cons, not_or]
      exact ⟨Ne.symm differ, ih⟩

/-- A text without the mark is not split. -/
theorem splitFirst_of_not_mem {mark : Char} {s : Text} (h : mark ∉ s) :
    splitFirst mark s = (s, none) := by
  induction s with
  | nil => rfl
  | cons c s ih =>
    rw [List.mem_cons, not_or] at h
    rw [splitFirst, if_neg (Ne.symm h.1), ih h.2]

/-- A text without the mark is split off in front of it. -/
theorem splitFirst_append_cons {mark : Char} {s : Text} (h : mark ∉ s) (t : Text) :
    splitFirst mark (s ++ mark :: t) = (s, some t) := by
  induction s with
  | nil => rw [List.nil_append, splitFirst, if_pos rfl]
  | cons c s ih =>
    rw [List.mem_cons, not_or] at h
    rw [List.cons_append, splitFirst, if_neg (Ne.symm h.1), ih h.2]

/-- A text split at the first mark is what stands before it and behind it. -/
theorem splitFirst_eq_iff {mark : Char} {s t : Text} {rest : Option Text} :
    splitFirst mark s = (t, rest) ↔ mark ∉ t ∧ s = t ++ rest.elim [] (List.cons mark) := by
  constructor
  · intro split
    have absent := not_mem_splitFirst mark s
    rw [split] at absent
    refine ⟨absent, ?_⟩
    induction s generalizing t with
    | nil =>
      obtain ⟨rfl, rfl⟩ := Prod.mk.inj split
      rfl
    | cons c s ih =>
      rw [splitFirst] at split
      split at split
      · next same =>
        obtain ⟨rfl, rfl⟩ := Prod.mk.inj split
        rw [same]
        rfl
      · next other =>
        obtain ⟨rfl, behind⟩ := Prod.mk.inj split
        rw [List.mem_cons, not_or] at absent
        exact congrArg (List.cons c) (ih (Prod.ext rfl behind) absent.2)
  · rintro ⟨absent, rfl⟩
    cases rest with
    | none =>
      rw [Option.elim_none, List.append_nil]
      exact splitFirst_of_not_mem absent
    | some rest => exact splitFirst_append_cons absent rest

/-- The capitals are the codes from 65 to 90. -/
theorem isUpper_iff {c : Char} : c.isUpper ↔ 65 ≤ c.toNat ∧ c.toNat ≤ 90 := decide_eq_true_iff

/-- A capital is lowered to a letter from a to z. -/
theorem toNat_toLower {c : Char} (h : c.isUpper) : c.toLower.toNat = c.toNat + 32 := by
  have code : c.toLower.val = c.val + 32 := congrArg Char.val (dif_pos (of_decide_eq_true h))
  have small := (isUpper_iff.mp h).2
  rw [Char.toNat, code, UInt32.toNat_add]
  exact Nat.mod_eq_of_lt (by simp only [Char.toNat, UInt32.reduceToNat] at small ⊢; omega)

/-- Any other character is not changed by lowering. -/
theorem toLower_eq_self {c : Char} (h : c.isUpper = false) : c.toLower = c :=
  dif_neg (of_decide_eq_false h)

/-- Lowering leaves no capital. -/
theorem isUpper_eq_false_of_mem_asciiLower {s : Text} {c : Char} (h : c ∈ asciiLower s) :
    c.isUpper = false := by
  obtain ⟨d, -, rfl⟩ := List.mem_map.mp h
  cases upper : d.isUpper with
  | true =>
    have codes := isUpper_iff.mp upper
    rw [Bool.eq_false_iff, ne_eq, isUpper_iff, toNat_toLower upper]
    omega
  | false => rw [toLower_eq_self upper, upper]

/-- A text without capitals is not changed by lowering. -/
theorem asciiLower_eq_self {s : Text} (h : ∀ c ∈ s, c.isUpper = false) : asciiLower s = s := by
  have fixed : ∀ c ∈ s, c.toLower = c := fun c hc => toLower_eq_self (h c hc)
  rw [asciiLower, List.map_congr_left fixed, List.map_id']

/-- Lowering makes no characters but small letters. -/
theorem not_mem_asciiLower_of_not_mem {s : Text} {d : Char} (small : d.toNat < 97 ∨ 122 < d.toNat)
    (h : d ∉ s) : d ∉ asciiLower s := by
  intro mem
  obtain ⟨c, hc, rfl⟩ := List.mem_map.mp mem
  cases upper : c.isUpper with
  | true =>
    have codes := isUpper_iff.mp upper
    rw [toNat_toLower upper] at small
    omega
  | false => exact h ((toLower_eq_self upper).symm ▸ hc)

/-- A digit is worth at most nine, and is no capital. -/
theorem isDigit_bound {c : Char} (h : c.isDigit) : c.toNat - 48 ≤ 9 ∧ c.isUpper = false := by
  have codes := Char.isDigit_iff_toNat.mp h
  simp only [Char.reduceToNat] at codes
  rw [Bool.eq_false_iff, ne_eq, isUpper_iff]
  omega

/-- A number of one or two digits is below one hundred. -/
theorem digitsValue_le {digits : Text} (h : ∀ c ∈ digits, c.isDigit)
    (short : digits.length = 1 ∨ digits.length = 2) : digitsValue digits ≤ 99 := by
  match digits, h, short with
  | [c], h, _ =>
    have units := (isDigit_bound (h c List.mem_cons_self)).1
    simp only [digitsValue, Nat.ofDigitChars_cons, Nat.ofDigitChars_nil, Char.reduceToNat]
    omega
  | [c, d], h, _ =>
    have tens := (isDigit_bound (h c List.mem_cons_self)).1
    have units := (isDigit_bound (h d (List.mem_cons_of_mem c List.mem_cons_self))).1
    simp only [digitsValue, Nat.ofDigitChars_cons, Nat.ofDigitChars_nil, Char.reduceToNat]
    omega

/-- A number written in decimal is read back. -/
theorem digitsValue_decimal (n : Nat) : digitsValue (decimal n) = n :=
  Nat.ofDigitChars_ten_toDigits

/-- A number is written in decimal digits. -/
theorem isDigit_of_mem_decimal {n : Nat} {c : Char} (h : c ∈ decimal n) : c.isDigit :=
  Nat.isDigit_of_mem_toDigits (by decide) (by decide) h

/-- A number below one hundred has one or two digits. -/
theorem length_decimal {n : Nat} (h : n ≤ 99) :
    (decimal n).length = 1 ∨ (decimal n).length = 2 := by
  have upper : (decimal n).length ≤ 2 :=
    (Nat.length_toDigits_le_iff (by decide) (by decide)).mpr (by omega)
  have lower : 0 < (decimal n).length := Nat.length_toDigits_pos
  omega

end LootRules.Text
