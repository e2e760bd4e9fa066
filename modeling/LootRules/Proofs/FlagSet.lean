import Mathlib.Data.Finset.Card
import Mathlib.Data.Fintype.Defs
import LootRules.FlagSet

/-!
# Sets of flags as finite sets

Whatever flags and groups of flags are put into a set of flags and taken out of it, one after
another, the two words answer every question as the finite set does with which the same is done.
`Agrees` lists the questions. All of them come down to which flags the words contain, and a change
does to these what it does to the members of the finite set; so it is enough to follow one change,
and a run of changes is an induction.

Two runs of changes leave the same words just when they leave the same finite set, and a set to
which flags are added only in place of the others of their groups never has two flags of one group.
-/

namespace LootRules

instance : Fintype FlagGroup :=
  ⟨{.identification, .quality, .rarity, .noun}, fun group => by cases group <;> decide⟩

namespace FlagSet

/-- What is done to a set of flags. -/
inductive Change where
  | insert (f : Flag)
  | erase (f : Flag)
  | insertExclusive (f : Flag)
  | eraseGroup (group : FlagGroup)
  deriving DecidableEq

/-- A set of flags after a change. -/
def change (s : FlagSet) : Change → FlagSet
  | .insert f => s.insert f
  | .erase f => s.erase f
  | .insertExclusive f => s.insertExclusive f
  | .eraseGroup group => s.eraseGroup group

/-- The set of flags that changes make of the empty one. -/
def ofChanges (changes : List Change) : FlagSet := changes.foldl change ∅

/-- A finite set of flags after a change. -/
def Change.onMembers (before : Finset Flag) : Change → Finset Flag
  | .insert f => before ∪ {f}
  | .erase f => before \ {f}
  | .insertExclusive f =>
    {g ∈ before | ∀ group : FlagGroup, f ∈ group.members → g ∉ group.members} ∪ {f}
  | .eraseGroup group => before \ group.members.toFinset

/-- The finite set that changes make of the empty one. -/
def membersAfter (changes : List Change) : Finset Flag := changes.foldl Change.onMembers ∅

/-- The set of flags contains the members of the finite set and no other flags. -/
def HasMembers (s : FlagSet) (members : Finset Flag) : Prop := ∀ f, s.contains f ↔ f ∈ members

/-- The words answer as the finite set does: which flags there are, in which order they are listed,
how many there are, whether there are any, which category comes first, and which bits are set. -/
structure Agrees (s : FlagSet) (members : Finset Flag) : Prop where
  contains : s.HasMembers members
  toList : ∀ f, f ∈ s.toList ↔ f ∈ members
  increasing : s.toList.Pairwise (·.bit < ·.bit)
  size : s.size = members.card
  isEmpty : s.isEmpty ↔ members = ∅
  noun? : ∀ f, s.noun? = some f ↔
    (f ∈ members ∧ f.isNoun) ∧ ∀ g ∈ members, g.isNoun → f.bit ≤ g.bit
  bits : ∀ n, s.words.bits.getLsbD n ↔ ∃ f ∈ members, f.bit = n

/-- The set has at most one flag of each group. -/
def Exclusive (s : FlagSet) : Prop :=
  ∀ group : FlagGroup, ∀ f ∈ group.members, ∀ g ∈ group.members, f ∈ s → g ∈ s → f = g

variable {s : FlagSet} {members : Finset Flag}

/-- A change does the same to a set of flags and to a finite set. -/
theorem HasMembers.change (h : s.HasMembers members) (c : Change) :
    (s.change c).HasMembers (c.onMembers members) := by
  intro f
  cases c with
  | insert g => simp [FlagSet.change, Change.onMembers, contains_insert, h f, or_comm]
  | erase g => simp [FlagSet.change, Change.onMembers, contains_erase, h f]
  | insertExclusive g =>
    simp only [FlagSet.change, Change.onMembers, contains_insertExclusive, h f, Finset.mem_union,
      Finset.mem_filter, Finset.mem_singleton]
  | eraseGroup group => simp [FlagSet.change, Change.onMembers, contains_eraseGroup, h f]

/-- Changes do the same to a set of flags and to a finite set. -/
theorem hasMembers_ofChanges (changes : List Change) :
    (ofChanges changes).HasMembers (membersAfter changes) := by
  have run (s : FlagSet) (members : Finset Flag) (h : s.HasMembers members) :
      (changes.foldl change s).HasMembers (changes.foldl Change.onMembers members) := by
    induction changes generalizing s members with
    | nil => exact h
    | cons c changes ih => exact ih (s.change c) (c.onMembers members) (h.change c)
  exact run ∅ ∅ fun f => by simp [contains_empty]

/-- A set bit is the bit of a member. -/
theorem HasMembers.bits (h : s.HasMembers members) (n : Nat) :
    s.words.bits.getLsbD n ↔ ∃ f ∈ members, f.bit = n := by
  constructor
  · intro bit
    obtain ⟨f, rfl⟩ := s.named n bit
    exact ⟨f, (h f).mp (s.contains_eq f ▸ bit), rfl⟩
  · rintro ⟨f, mem, rfl⟩
    exact s.contains_eq f ▸ (h f).mpr mem

/-- The bits that are set in a word are counted from the lowest on. -/
theorem toNat_cpop_eq_card {w : Nat} (x : BitVec w) :
    x.cpop.toNat = {n ∈ Finset.range w | x.getLsbD n}.card := by
  have upTo (n : Nat) : x.cpopNatRec n 0 = {i ∈ Finset.range n | x.getLsbD i}.card := by
    induction n with
    | zero => rfl
    | succ n ih =>
      rw [BitVec.cpopNatRec_succ, BitVec.cpopNatRec_add, ih, Finset.range_add_one,
        Finset.filter_insert]
      cases x.getLsbD n <;> simp
  rw [BitVec.toNat_cpop, upTo]

/-- The words have as many bits as there are members. -/
theorem HasMembers.size (h : s.HasMembers members) : s.size = members.card := by
  have positions : {n ∈ Finset.range (32 + 32) | s.words.bits.getLsbD n} =
      members.image Flag.bit := by
    ext n
    simp only [Finset.mem_filter, Finset.mem_range, h.bits n, Finset.mem_image]
    refine and_iff_right_of_imp ?_
    rintro ⟨f, _, rfl⟩
    exact f.bit_lt
  calc s.size = s.words.bits.cpop.toNat := by
        rw [FlagSet.size, FlagWords.bits, BitVec.toNat_cpop_append, Nat.add_comm]
    _ = members.card := by
        rw [toNat_cpop_eq_card, positions]
        exact Finset.card_image_of_injective members fun _ _ => Flag.bit_injective

/-- The words are zero when there is no member. -/
theorem HasMembers.isEmpty (h : s.HasMembers members) : s.isEmpty ↔ members = ∅ := by
  have isEmpty_iff : s.isEmpty ↔ s = ∅ := by
    rw [FlagSet.isEmpty, beq_iff_eq]
    constructor
    · intro zero
      refine ext fun f => ?_
      rw [contains_eq, zero, contains_empty]
      cases f <;> rfl
    · rintro rfl
      rfl
  rw [isEmpty_iff, Finset.eq_empty_iff_forall_notMem]
  constructor
  · rintro rfl f mem
    exact absurd ((h f).mpr mem) (by simp [contains_empty])
  · intro absent
    refine ext fun f => ?_
    rw [contains_empty, Bool.eq_false_iff]
    exact fun mem => absent f ((h f).mp mem)

/-- A category that is found first is the least. -/
theorem HasMembers.least_of_noun? (h : s.HasMembers members) {f : Flag} (first : s.noun? = some f) :
    (f ∈ members ∧ f.isNoun) ∧ ∀ g ∈ members, g.isNoun → f.bit ≤ g.bit := by
  have ordered : Flag.nouns.Pairwise (·.bit < ·.bit) := by decide
  have listed : f ∈ Flag.nouns := List.mem_of_find?_eq_some first
  refine ⟨⟨(h f).mp (List.find?_some first), Flag.mem_nouns_iff.mp listed⟩, fun g mem noun => ?_⟩
  obtain ⟨_, before, behind, nouns, absent⟩ := List.find?_eq_some_iff_append.mp first
  rw [nouns] at ordered
  have later := (List.pairwise_cons.mp (List.pairwise_append.mp ordered).2.1).1
  have placed : g ∈ before ++ f :: behind := nouns ▸ Flag.mem_nouns_iff.mpr noun
  -- A category listed before the one found is not in the set, and one behind it has a higher bit.
  rcases List.mem_append.mp placed with skipped | found
  · have no := absent g skipped
    rw [(h g).mpr mem] at no
    contradiction
  · rcases List.mem_cons.mp found with rfl | next
    · exact Nat.le_refl _
    · exact Nat.le_of_lt (later g next)

/-- The category that is found first is the least, and one is found if there is any. -/
theorem HasMembers.noun? (h : s.HasMembers members) (f : Flag) :
    s.noun? = some f ↔ (f ∈ members ∧ f.isNoun) ∧ ∀ g ∈ members, g.isNoun → f.bit ≤ g.bit := by
  refine ⟨h.least_of_noun?, fun ⟨⟨mem, noun⟩, least⟩ => ?_⟩
  have found : s.noun?.isSome :=
    List.find?_isSome.mpr ⟨f, Flag.mem_nouns_iff.mpr noun, (h f).mpr mem⟩
  obtain ⟨g, first⟩ := Option.isSome_iff_exists.mp found
  obtain ⟨⟨mem', noun'⟩, least'⟩ := h.least_of_noun? first
  have same := Nat.le_antisymm (least' f mem noun) (least g mem' noun')
  rw [first, Flag.bit_injective same]

/-- Words that contain the members of a finite set answer as it does. -/
theorem HasMembers.agrees (h : s.HasMembers members) : s.Agrees members where
  contains := h
  toList f := by simp [FlagSet.toList, Flag.mem_flags, h f]
  increasing := by
    have ordered : Flag.flags.Pairwise (·.bit < ·.bit) := by decide
    exact ordered.filter s.contains
  size := h.size
  isEmpty := h.isEmpty
  noun? := h.noun?
  bits := h.bits

/-- Sets of flags are equal when their finite sets are. -/
theorem HasMembers.eq_iff {t : FlagSet} {others : Finset Flag} (h : s.HasMembers members)
    (h' : t.HasMembers others) : s = t ↔ members = others := by
  constructor
  · rintro rfl
    ext f
    rw [← h f, h' f]
  · rintro rfl
    exact ext fun f => Bool.eq_iff_iff.mpr ((h f).trans (h' f).symm)

/-- A change keeps a set exclusive unless it adds a flag beside the others of its group. -/
theorem Exclusive.change (h : s.Exclusive) {c : Change} (careful : ∀ f, c ≠ .insert f) :
    (s.change c).Exclusive := by
  intro group f hf g hg memf memg
  change (s.change c).contains f at memf
  change (s.change c).contains g at memg
  cases c with
  | insert added => exact absurd rfl (careful added)
  | erase gone =>
    rw [FlagSet.change, contains_erase, Bool.and_eq_true] at memf memg
    exact h group f hf g hg memf.1 memg.1
  | eraseGroup gone =>
    rw [FlagSet.change, contains_eraseGroup, Bool.and_eq_true] at memf memg
    exact h group f hf g hg memf.1 memg.1
  | insertExclusive added =>
    rw [FlagSet.change, contains_insertExclusive] at memf memg
    rcases memf with ⟨kept, apart⟩ | rfl <;> rcases memg with ⟨kept', apart'⟩ | rfl
    · exact h group f hf g hg kept kept'
    · exact absurd hf (apart group hg)
    · exact absurd hg (apart' group hf)
    · rfl

/-- Changes keep a set exclusive unless one of them adds a flag beside the others of its group. -/
theorem exclusive_ofChanges {changes : List Change} (careful : ∀ f, .insert f ∉ changes) :
    (ofChanges changes).Exclusive := by
  have run (s : FlagSet) (h : s.Exclusive) : (changes.foldl change s).Exclusive := by
    induction changes generalizing s with
    | nil => exact h
    | cons c changes ih =>
      have first : ∀ f, c ≠ .insert f := fun f same => careful f (same ▸ List.mem_cons_self)
      have rest : ∀ f, .insert f ∉ changes := fun f mem => careful f (List.mem_cons_of_mem c mem)
      exact ih rest (s.change c) (h.change first)
  refine run ∅ fun group f _ g _ mem => ?_
  change (∅ : FlagSet).contains f at mem
  rw [contains_empty] at mem
  contradiction

/-- After any changes the words agree with the finite set of the same changes, they are the same as
after other changes just when the finite sets are the same, and they are exclusive if no flag was
added beside the others of its group. -/
theorem agrees_ofChanges (changes : List Change) :
    (ofChanges changes).Agrees (membersAfter changes) ∧
      (∀ others, ofChanges changes = ofChanges others ↔
        membersAfter changes = membersAfter others) ∧
      ((∀ f, .insert f ∉ changes) → (ofChanges changes).Exclusive) :=
  ⟨(hasMembers_ofChanges changes).agrees,
    fun others => (hasMembers_ofChanges changes).eq_iff (hasMembers_ofChanges others),
    exclusive_ofChanges⟩

/-- Boots in place of rings, and identified in place of unaware things: the changes meet both
words. -/
theorem agrees_ofChanges_identifiedBoots :
    let changes : List Change :=
      [.insertExclusive .rings, .insertExclusive .unaware, .insertExclusive .rare, .erase .good,
        .insertExclusive .boots, .insertExclusive .identified, .eraseGroup .rarity]
    (ofChanges changes).toList = [.identified, .boots] ∧ (∀ f, .insert f ∉ changes) ∧
      (ofChanges changes).size = (membersAfter changes).card ∧ (ofChanges changes).Exclusive := by
  intro changes
  have careful : ∀ f, .insert f ∉ changes := by simp [changes]
  have agrees := agrees_ofChanges changes
  exact ⟨by decide +kernel, careful, agrees.1.size, agrees.2.2 careful⟩

end FlagSet

end LootRules
