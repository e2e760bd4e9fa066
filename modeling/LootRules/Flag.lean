/-!
# Flags

A rule names what it asks of an item by flags: how much is known of the item, its quality,
its dice and bonuses, whose remains it is, which book of which realm, and its category. A
category flag is called a noun.

Each flag has a fixed number, its bit; the flags are listed by increasing bit. Some flags
belong to a group, whose members exclude one another when a flag is set by hand.
-/

namespace LootRules

/-- What a rule can ask of an item. -/
inductive Flag where
  | all | unaware | unidentified | identified | starIdentified | collecting
  | artifact | ego | good | nameless | average | worthless | rare | common
  | boosted | moreDice | moreBonus | wanted | unique | human
  | unreadable | realm1 | realm2 | first | second | third | fourth
  | items | weapons | favoriteWeapons | armors | missiles | devices | lights | junks
  | corpses | spellbooks | hafted | shields | bows | rings | amulets | suits
  | cloaks | helms | gloves | boots
  deriving DecidableEq, Repr

/-- Flags of which at most one is meant to be set. -/
inductive FlagGroup where
  | identification | quality | rarity | noun
  deriving DecidableEq, Repr

namespace Flag

/-- The number of a flag. The numbers leave gaps; categories start at 32. -/
def bit : Flag → Nat
  | all => 0 | unaware => 1 | unidentified => 2 | identified => 3 | starIdentified => 4
  | collecting => 5 | artifact => 6 | ego => 7 | good => 10 | nameless => 11 | average => 12
  | worthless => 13 | rare => 14 | common => 15 | boosted => 16 | moreDice => 17
  | moreBonus => 18 | wanted => 19 | unique => 20 | human => 21 | unreadable => 22
  | realm1 => 23 | realm2 => 24 | first => 25 | second => 26 | third => 27 | fourth => 28
  | items => 32 | weapons => 33 | favoriteWeapons => 34 | armors => 35 | missiles => 36
  | devices => 37 | lights => 38 | junks => 39 | corpses => 40 | spellbooks => 41
  | hafted => 42 | shields => 43 | bows => 44 | rings => 45 | amulets => 46 | suits => 47
  | cloaks => 48 | helms => 49 | gloves => 50 | boots => 51

/-- The category flags, by increasing bit. -/
def nouns : List Flag :=
  [items, weapons, favoriteWeapons, armors, missiles, devices, lights, junks, corpses,
   spellbooks, hafted, shields, bows, rings, amulets, suits, cloaks, helms, gloves, boots]

/-- Every flag, by increasing bit. -/
def flags : List Flag :=
  [all, unaware, unidentified, identified, starIdentified, collecting, artifact, ego, good,
   nameless, average, worthless, rare, common, boosted, moreDice, moreBonus, wanted, unique,
   human, unreadable, realm1, realm2, first, second, third, fourth] ++ nouns

/-- No flag is missing from the list. -/
theorem mem_flags (f : Flag) : f ∈ flags := by cases f <;> decide

/-- A flag is found again by its number. -/
theorem find?_bit (f : Flag) : flags.find? (·.bit = f.bit) = some f := by cases f <;> rfl

/-- Different flags have different numbers. -/
theorem bit_injective {f g : Flag} (h : f.bit = g.bit) : f = g := by
  have hf := find?_bit f
  rw [h, find?_bit g] at hf
  exact (Option.some.inj hf).symm

/-- Every number fits a word of 64 bits. -/
theorem bit_lt (f : Flag) : f.bit < 64 := by cases f <;> decide

/-- Whether the flag names a category of items. -/
def isNoun (f : Flag) : Bool := items.bit ≤ f.bit

/-- The categories are the flags from the first one on. -/
theorem mem_nouns_iff {f : Flag} : f ∈ nouns ↔ f.isNoun := by cases f <;> decide

end Flag

namespace FlagGroup

/-- The flags of a group, by increasing bit. -/
def members : FlagGroup → List Flag
  | identification => [.unaware, .unidentified, .identified, .starIdentified]
  | quality => [.artifact, .ego, .good, .nameless, .average]
  | rarity => [.rare, .common]
  | noun => Flag.nouns

end FlagGroup

/-- The group a flag belongs to, if any. No flag belongs to two. -/
def Flag.group (f : Flag) : Option FlagGroup :=
  [.identification, .quality, .rarity, .noun].find? (f ∈ FlagGroup.members ·)

/-- The group of a flag is the one that has it as a member. -/
theorem Flag.group_eq_some_iff {f : Flag} {group : FlagGroup} :
    f.group = some group ↔ f ∈ group.members := by
  cases group <;> cases f <;> decide

end LootRules
