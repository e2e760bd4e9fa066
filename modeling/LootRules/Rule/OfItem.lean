import LootRules.Item
import LootRules.Rule

/-!
# The rule of an item

From an item a rule can be made that selects it, as narrowly as the player's knowledge
allows: how well the item is known and of what quality it is, what remains or which book it
is, its category, and its name. Where the other facts say enough, the name is left out.

What the player has not learnt has no part in the rule: as long as the item is not both
recognised and identified, only the impression it made speaks of its quality.
-/

namespace LootRules

namespace Item

/-- Whether the player has learnt what the item is and what it does. -/
def isLearnt (item : Item) : Bool := item.aware && item.known

/-- Whether the item is a corpse with a price on its head. -/
def isWantedCorpse (item : Item) : Bool := item.kind = .corpse && item.remains.any (·.wanted)

/-- What the impression of an unidentified item says of its quality. -/
def feelingFlags : Option Feeling → List Flag
  | none => [.unidentified]
  | some .average | some .good => [.nameless]
  | some .broken | some .cursed => [.nameless, .worthless]
  | some .terrible | some .worthless => [.worthless]
  | some .excellent => [.ego]
  | some .uncursed => [.average]
  | some .special => []

/-- Whether the title of an ego item says more than its name. -/
def isTitled (item : Item) : Bool :=
  item.isLearnt && item.isEgo &&
    (item.kind.isWeapon || item.kind.isArmour || item.kind.isAmmo)

/-- What the player knows of the item's quality. -/
def qualityFlags (item : Item) : List Flag :=
  if !item.aware then [.unaware]
  else if !item.known then feelingFlags item.feeling
  else if item.isEgo then (if item.isTitled && !item.rare then [.common] else []) ++ [.ego]
  else if item.artifact then [.artifact]
  else if item.kind.isEquipment then [.nameless]
  else []

/-- Whose remains the item is. -/
def remainsFlags (item : Item) : List Flag :=
  match item.remains with
  | none => []
  | some m =>
    (if item.kind = .corpse && m.wanted then [.wanted] else []) ++
      (if item.kind ∈ [.corpse, .statue] && m.unique then [.unique] else []) ++
      (if item.kind = .corpse && m.humanoid then [.human] else [])

/-- Which book the item is. -/
def bookFlags (item : Item) : List Flag :=
  match item.book with
  | none => []
  | some book =>
    (if book.readable then [] else [.unreadable]) ++
      (match book.realm with | .first => [.realm1] | .second => [.realm2] | .other => []) ++
      (match book.position with
        | 0 => [.first] | 1 => [.second] | 2 => [.third] | 3 => [.fourth] | _ => [])

/-- Whether the item is a spellbook of one of the player's own realms. -/
def isRealmBook (item : Item) : Bool := item.book.any (·.realm != .other)

/-- The category of a kind, if there is one. -/
def Kind.noun? : Kind → Option Flag
  | .shot | .arrow | .bolt => some .missiles
  | .scroll | .staff | .wand | .rod => some .devices
  | .light => some .lights
  | .skeleton | .bottle | .junk | .statue => some .junks
  | .corpse => some .corpses
  | .spellbook => some .spellbooks
  | .sword | .hafted | .polearm | .digging => some .weapons
  | .shield => some .shields
  | .bow => some .bows
  | .ring => some .rings
  | .amulet => some .amulets
  | .softArmor | .hardArmor | .dragonArmor => some .suits
  | .cloak => some .cloaks
  | .helm | .crown => some .helms
  | .gloves => some .gloves
  | .boots => some .boots
  | .potion | .food | .flask | .chest | .other => none

/-- All flags of the item's rule. A corpse with a price on its head is not worthless. -/
def ruleFlags (item : Item) : List Flag :=
  item.qualityFlags.filter (fun f => !(f = .worthless && item.isWantedCorpse)) ++
    (if item.isBoosted then [.boosted] else []) ++
    item.remainsFlags ++ item.bookFlags ++ item.kind.noun?.toList

/-- The name pattern of the item's rule: the title of a titled item, nothing for a book of the
player's realms, and otherwise the name from its start. -/
def rulePattern (item : Item) (name : Text) : Text :=
  if item.isTitled then Text.lower (item.ego.getD [])
  else if item.isRealmBook then []
  else Rule.anchor :: Text.lower name

end Item

/-- The rule that selects an item under a name. -/
def Rule.ofItem (item : Item) (name : Text) : Rule where
  flags := FlagSet.ofList item.ruleFlags
  name := item.rulePattern name
  inscription := item.inscription

end LootRules
