import LootRules.Text.LowerCase

/-!
# Items

What the player can know of an item: its kind, how well it is known, the impression it made,
its numbers and marks, and where it came from. Rules see items only through these facts.
-/

namespace LootRules

namespace Item

/-- The kinds of things an item can be. -/
inductive Kind where
  | sword | hafted | polearm | digging | bow | shot | arrow | bolt | shield
  | softArmor | hardArmor | dragonArmor | cloak | helm | crown | gloves | boots
  | ring | amulet | light | scroll | potion | staff | wand | rod | food | flask
  | spellbook | corpse | skeleton | statue | bottle | junk | chest | other
  deriving DecidableEq, Repr

/-- The impression an item made before it was identified. -/
inductive Feeling where
  | terrible | worthless | cursed | broken | average | good | excellent | special | uncursed
  deriving DecidableEq, Repr

namespace Kind

/-- Weapons to strike with. -/
def isMeleeWeapon (k : Kind) : Bool := k ∈ [sword, hafted, polearm, digging]

/-- Weapons to strike with, and launchers. -/
def isWeapon (k : Kind) : Bool := k.isMeleeWeapon || k = bow

/-- What launchers shoot. -/
def isAmmo (k : Kind) : Bool := k ∈ [shot, arrow, bolt]

/-- What is worn for protection. -/
def isArmour (k : Kind) : Bool :=
  k ∈ [shield, softArmor, hardArmor, dragonArmor, cloak, helm, crown, gloves, boots]

/-- What can be wielded, worn or shot. -/
def isEquipment (k : Kind) : Bool :=
  k.isWeapon || k.isAmmo || k.isArmour || k ∈ [ring, amulet, light]

/-- Magical devices. -/
def isDevice (k : Kind) : Bool := k ∈ [scroll, staff, wand, rod]

/-- Things of no use. -/
def isJunk (k : Kind) : Bool := k ∈ [skeleton, bottle, junk, statue]

/-- Armour for the body. -/
def isBodyArmour (k : Kind) : Bool := k ∈ [softArmor, hardArmor, dragonArmor]

end Kind

/-- A number of dice with so many sides each. -/
structure Dice where
  count : Nat := 0
  sides : Nat := 0
  deriving DecidableEq, Repr, Inhabited

/-- The most that the dice can show. -/
def Dice.product (d : Dice) : Nat := d.count * d.sides

/-- The monster that remains came from. -/
structure Remains where
  unique : Bool := false
  humanoid : Bool := false
  /-- There is a price on its head. -/
  wanted : Bool := false
  deriving DecidableEq, Repr, Inhabited

/-- The realm of a spellbook, as the player counts realms. -/
inductive Realm where
  | first | second | other
  deriving DecidableEq, Repr

/-- A spellbook, as the player sees it. Positions count from zero. -/
structure Book where
  realm : Realm := .other
  position : Nat := 0
  readable : Bool := false
  deriving DecidableEq, Repr

end Item

/-- What the player can know of an item. -/
structure Item where
  name : Text := []
  kind : Item.Kind := .other
  /-- The player knows what kind of thing it is. -/
  aware : Bool := true
  /-- It is identified. -/
  known : Bool := true
  /-- Every property is known. -/
  fullyKnown : Bool := false
  feeling : Option Item.Feeling := none
  dice : Item.Dice := {}
  /-- The dice of the plain kind, without enchantment. -/
  baseDice : Item.Dice := {}
  /-- The item's own power, if it has one. -/
  pval : Int := 0
  toHit : Int := 0
  toDam : Int := 0
  toAc : Int := 0
  /-- The price it would fetch, for all the player knows. -/
  value : Int := 10
  /-- The title of an ego item. -/
  ego : Option Text := none
  artifact : Bool := false
  rare : Bool := false
  cursed : Bool := false
  broken : Bool := false
  /-- It is what the current quest is after. -/
  questTarget : Bool := false
  /-- It is a weapon that the player's class likes best. -/
  favorite : Bool := false
  remains : Option Item.Remains := none
  book : Option Item.Book := none
  inscription : Option Text := none
  /-- It would stack with something in the pack. -/
  stackable : Bool := false
  deriving DecidableEq

namespace Item

/-- The item has the powers of a named kind. -/
def isEgo (item : Item) : Bool := item.ego.isSome

/-- The item is neither an ego item nor an artifact. -/
def isNameless (item : Item) : Bool := !item.isEgo && !item.artifact

/-- The item is a melee weapon whose dice are not those of its kind. -/
def isBoosted (item : Item) : Bool := item.kind.isMeleeWeapon && item.dice != item.baseDice

/-- The name that patterns are compared with. -/
def matchName (item : Item) : Text := Text.lower item.name

/-- What counts as the bonus of an item: its own power, or else the best of its combat
bonuses. -/
def bonus (item : Item) : Int :=
  if item.pval ≠ 0 then item.pval else max (max item.toHit item.toDam) item.toAc

end Item

end LootRules
