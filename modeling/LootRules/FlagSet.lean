import LootRules.Flag

/-!
# Sets of flags

A set of flags is kept in two words of 32 bits: the number of a flag divided by 32 says which word
has its bit, and the remainder says which bit of the word it is. The categories fill the second
word. No bit is set but those of flags, and the type says so; hence two sets with the same members
are equal (`ext`). The operations on words are known by their members: `contains_insert`,
`contains_erase`, `contains_ofList`, `contains_eraseGroup` and `contains_insertExclusive`.
-/

namespace LootRules

/-- Two words of 32 bits. -/
structure FlagWords where
  low : BitVec 32 := 0#32
  high : BitVec 32 := 0#32
  deriving DecidableEq

namespace FlagWords

/-- The word at a place. -/
def get (w : FlagWords) : Fin 2 → BitVec 32
  | 0 => w.low
  | 1 => w.high

/-- The words with the one at the place changed. -/
def modify (w : FlagWords) (place : Fin 2) (change : BitVec 32 → BitVec 32) : FlagWords :=
  match place with
  | 0 => { w with low := change w.low }
  | 1 => { w with high := change w.high }

/-- The bits of both words, from the lowest of the first to the highest of the second. -/
def bits (w : FlagWords) : BitVec (32 + 32) := w.high ++ w.low

/-- A bit is found in its word. -/
theorem getLsbD_bits (w : FlagWords) {n : Nat} (h : n < 64) :
    w.bits.getLsbD n = (w.get ⟨n / 32, Nat.div_lt_of_lt_mul h⟩).getLsbD (n % 32) := by
  rw [bits, BitVec.getLsbD_append]
  by_cases low : n < 32
  · have place : n / 32 = 0 := by omega
    simp [low, place, get, Nat.mod_eq_of_lt low]
  · have place : n / 32 = 1 := by omega
    have offset : n % 32 = n - 32 := by omega
    simp [low, place, get, offset]

/-- The bits of one word change, and those of the other stay. -/
theorem getLsbD_bits_modify (w : FlagWords) (place : Fin 2) (change : BitVec 32 → BitVec 32)
    {n : Nat} (h : n < 64) :
    (w.modify place change).bits.getLsbD n =
      if n / 32 = place then (change (w.get place)).getLsbD (n % 32) else w.bits.getLsbD n := by
  rw [getLsbD_bits _ h, getLsbD_bits _ h]
  have places : n / 32 = 0 ∨ n / 32 = 1 := by omega
  match place with
  | 0 => rcases places with here | here <;> simp [here, get, modify]
  | 1 => rcases places with here | here <;> simp [here, get, modify]

/-- Words with the same bits are the same. -/
theorem eq_of_bits_eq {w v : FlagWords} (h : w.bits = v.bits) : w = v := by
  have low := congrArg (BitVec.extractLsb' 0 32) h
  have high := congrArg (BitVec.extractLsb' 32 32) h
  rw [bits, bits, BitVec.extractLsb'_append_eq_right, BitVec.extractLsb'_append_eq_right] at low
  rw [bits, bits, BitVec.extractLsb'_append_eq_left, BitVec.extractLsb'_append_eq_left] at high
  cases w
  cases v
  cases low
  cases high
  rfl

end FlagWords

namespace Flag

/-- The place of the word that has the bit of the flag. -/
def place (f : Flag) : Fin 2 := ⟨f.bit / 32, Nat.div_lt_of_lt_mul f.bit_lt⟩

/-- The bit of the flag in its word. -/
def mask (f : Flag) : BitVec 32 := 1#32 <<< (f.bit % 32)

/-- A mask has one bit. -/
theorem getLsbD_mask (f : Flag) (n : Nat) : f.mask.getLsbD n = decide (n = f.bit % 32) := by
  have inside : f.bit % 32 < 32 := Nat.mod_lt _ (by decide)
  rw [mask, ← BitVec.twoPow_eq, BitVec.getLsbD_twoPow]
  simp [inside, eq_comm]

end Flag

namespace FlagWords

/-- What a mask leaves of the word at its place is the bit of the flag. -/
theorem get_and_mask (w : FlagWords) (f : Flag) :
    (w.get f.place &&& f.mask != 0#32) = w.bits.getLsbD f.bit := by
  have inside : f.bit % 32 < 32 := Nat.mod_lt _ (by decide)
  have nonzero : BitVec.twoPow 32 (f.bit % 32) ≠ 0#32 := by
    intro zero
    have bit := congrArg (BitVec.getLsbD · (f.bit % 32)) zero
    simp [inside] at bit
  rw [getLsbD_bits w f.bit_lt, Flag.mask, ← BitVec.twoPow_eq, BitVec.and_twoPow]
  change _ = (w.get f.place).getLsbD (f.bit % 32)
  cases (w.get f.place).getLsbD (f.bit % 32) with
  | false => simp
  | true => simpa using nonzero

/-- Under the mask of a flag an operation on bits changes the bit of the flag alone, if it keeps the
bits that are not in the mask. -/
theorem getLsbD_bits_masked (w : FlagWords) (f : Flag) (op : BitVec 32 → BitVec 32 → BitVec 32)
    (bit : Bool → Bool → Bool)
    (bitwise : ∀ x y i, i < 32 → (op x y).getLsbD i = bit (x.getLsbD i) (y.getLsbD i))
    (keeps : ∀ b, bit b false = b) (n : Nat) :
    (w.modify f.place (op · f.mask)).bits.getLsbD n = bit (w.bits.getLsbD n) (n = f.bit) := by
  have bound := f.bit_lt
  by_cases h : n < 64
  · rw [getLsbD_bits_modify _ _ _ h]
    by_cases here : n / 32 = f.place
    · have place : f.place = ⟨n / 32, Nat.div_lt_of_lt_mul h⟩ := Fin.ext here.symm
      -- In one word bits are told apart by their remainders.
      have same : n % 32 = f.bit % 32 ↔ n = f.bit := by
        simp only [Flag.place] at here
        omega
      rw [if_pos here, bitwise _ _ _ (Nat.mod_lt n (by decide)), Flag.getLsbD_mask, place,
        ← getLsbD_bits w h]
      simp only [same]
    · have other : n ≠ f.bit := fun same => here (congrArg (· / 32) same)
      simp [here, other, keeps]
  · have other : n ≠ f.bit := by omega
    simp [BitVec.getLsbD_of_ge _ n (Nat.not_lt.mp h), other, keeps]

/-- A flag's bit put in. -/
theorem getLsbD_bits_or_mask (w : FlagWords) (f : Flag) (n : Nat) :
    (w.modify f.place (· ||| f.mask)).bits.getLsbD n = (w.bits.getLsbD n || decide (n = f.bit)) :=
  w.getLsbD_bits_masked f (· ||| ·) or (fun _ _ _ _ => BitVec.getLsbD_or) Bool.or_false n

/-- A flag's bit taken out. -/
theorem getLsbD_bits_and_not_mask (w : FlagWords) (f : Flag) (n : Nat) :
    (w.modify f.place (· &&& ~~~f.mask)).bits.getLsbD n =
      (w.bits.getLsbD n && !decide (n = f.bit)) :=
  w.getLsbD_bits_masked f (fun x y => x &&& ~~~y) (fun b c => b && !c)
    (fun x y i inside => by simp [inside]) Bool.and_true n

end FlagWords

/-- A set of flags, by the bits of its members. -/
structure FlagSet where
  words : FlagWords
  named : ∀ n, words.bits.getLsbD n = true → ∃ f : Flag, f.bit = n
  deriving DecidableEq

namespace FlagSet

/-- The set without members. -/
def empty : FlagSet := ⟨{}, fun n bit => by simp [FlagWords.bits] at bit⟩

instance : EmptyCollection FlagSet := ⟨empty⟩

instance : Inhabited FlagSet := ⟨∅⟩

/-- Whether the flag is in the set. -/
def contains (s : FlagSet) (f : Flag) : Bool := s.words.get f.place &&& f.mask != 0#32

instance : Membership Flag FlagSet := ⟨fun s f => s.contains f = true⟩

instance (f : Flag) (s : FlagSet) : Decidable (f ∈ s) :=
  inferInstanceAs (Decidable (s.contains f = true))

/-- A flag is in the set when its bit is set. -/
theorem contains_eq (s : FlagSet) (f : Flag) : s.contains f = s.words.bits.getLsbD f.bit :=
  s.words.get_and_mask f

/-- Sets with the same members are equal. -/
theorem ext {s t : FlagSet} (h : ∀ f, s.contains f = t.contains f) : s = t := by
  have bits : s.words.bits = t.words.bits := by
    refine BitVec.eq_of_getLsbD_eq fun n _ => Bool.eq_iff_iff.mpr ⟨fun bit => ?_, fun bit => ?_⟩
    · obtain ⟨f, rfl⟩ := s.named n bit
      rw [← contains_eq, ← h, contains_eq, bit]
    · obtain ⟨f, rfl⟩ := t.named n bit
      rw [← contains_eq, h, contains_eq, bit]
  have words := FlagWords.eq_of_bits_eq bits
  cases s
  cases t
  cases words
  rfl

/-- No flag is in the empty set. -/
theorem contains_empty (f : Flag) : (∅ : FlagSet).contains f = false := by
  cases f <;> rfl

/-- The set with the flag added. -/
def insert (s : FlagSet) (f : Flag) : FlagSet where
  words := s.words.modify f.place (· ||| f.mask)
  named := by
    intro n bit
    rw [FlagWords.getLsbD_bits_or_mask, Bool.or_eq_true, decide_eq_true_eq] at bit
    exact bit.elim (s.named n) fun same => ⟨f, same.symm⟩

/-- Adding a flag adds that flag alone. -/
theorem contains_insert (s : FlagSet) (f g : Flag) :
    (s.insert f).contains g = (s.contains g || decide (g = f)) := by
  have same : g.bit = f.bit ↔ g = f := ⟨Flag.bit_injective, congrArg Flag.bit⟩
  rw [contains_eq, insert, FlagWords.getLsbD_bits_or_mask, ← contains_eq]
  simp only [same]

/-- The set with the flag taken out. -/
def erase (s : FlagSet) (f : Flag) : FlagSet where
  words := s.words.modify f.place (· &&& ~~~f.mask)
  named := by
    intro n bit
    rw [FlagWords.getLsbD_bits_and_not_mask, Bool.and_eq_true] at bit
    exact s.named n bit.1

/-- Taking a flag out takes that flag alone. -/
theorem contains_erase (s : FlagSet) (f g : Flag) :
    (s.erase f).contains g = (s.contains g && decide (g ≠ f)) := by
  have same : g.bit = f.bit ↔ g = f := ⟨Flag.bit_injective, congrArg Flag.bit⟩
  rw [contains_eq, erase, FlagWords.getLsbD_bits_and_not_mask, ← contains_eq]
  simp only [same, ne_eq, decide_not]

/-- The set of the listed flags. -/
def ofList (fs : List Flag) : FlagSet := fs.foldl insert ∅

/-- Adding one flag after another adds them all. -/
theorem contains_foldl_insert (s : FlagSet) (fs : List Flag) (g : Flag) :
    (fs.foldl insert s).contains g = (s.contains g || decide (g ∈ fs)) := by
  induction fs generalizing s with
  | nil => simp
  | cons f fs ih => simp [ih, contains_insert, Bool.or_assoc]

/-- The listed flags are the members of their set. -/
theorem contains_ofList (fs : List Flag) (g : Flag) :
    (ofList fs).contains g = decide (g ∈ fs) := by
  simp [ofList, contains_foldl_insert, contains_empty]

/-- The set without the members of a group. -/
def eraseGroup (s : FlagSet) (g : FlagGroup) : FlagSet := g.members.foldl erase s

/-- Taking out one flag after another takes them all. -/
theorem contains_foldl_erase (s : FlagSet) (fs : List Flag) (g : Flag) :
    (fs.foldl erase s).contains g = (s.contains g && decide (g ∉ fs)) := by
  induction fs generalizing s with
  | nil => simp
  | cons f fs ih => simp [ih, contains_erase, Bool.and_assoc]

/-- A set without a group keeps its other members. -/
theorem contains_eraseGroup (s : FlagSet) (group : FlagGroup) (g : Flag) :
    (s.eraseGroup group).contains g = (s.contains g && decide (g ∉ group.members)) :=
  contains_foldl_erase s group.members g

/-- The set with the flag added and the other members of its group taken out. -/
def insertExclusive (s : FlagSet) (f : Flag) : FlagSet :=
  match f.group with
  | some g => (s.eraseGroup g).insert f
  | none => s.insert f

/-- The flags of a group give way to one of them. -/
theorem contains_insertExclusive (s : FlagSet) (f g : Flag) :
    (s.insertExclusive f).contains g ↔
      (s.contains g ∧ ∀ group : FlagGroup, f ∈ group.members → g ∉ group.members) ∨ g = f := by
  have others : (∀ group : FlagGroup, f ∈ group.members → g ∉ group.members) ↔
      ∀ group, f.group = some group → g ∉ group.members := by
    simp only [Flag.group_eq_some_iff]
  rw [others, insertExclusive]
  cases f.group with
  | none => simp [contains_insert]
  | some group => simp [contains_insert, contains_eraseGroup]

/-- Whether the set has no member. -/
def isEmpty (s : FlagSet) : Bool := s.words == {}

/-- The number of members, counted in the words. -/
def size (s : FlagSet) : Nat := s.words.low.cpop.toNat + s.words.high.cpop.toNat

/-- The first category in the set, if there is one. -/
def noun? (s : FlagSet) : Option Flag := Flag.nouns.find? s.contains

/-- The members, by increasing bit. -/
def toList (s : FlagSet) : List Flag := Flag.flags.filter s.contains

end FlagSet

end LootRules
