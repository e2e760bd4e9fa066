import LootRules.Item
import LootRules.Rule

/-!
# Which items a rule selects

A rule selects an item when all its flags hold of it, its name pattern is found in the
item's name, and, for a rule that collects, the item stacks with something in the pack.

The flags of quality are about equipment only. An identified item is judged by its bonuses,
another by the impression it made.
-/

namespace LootRules

namespace Item

/-- Whether an item has a quality: what must be true of it once it is identified, and the
impressions that suggest it before. -/
def hasQuality (item : Item) (seen : Bool) (felt : List Feeling) : Bool :=
  item.kind.isEquipment &&
    if item.known then item.isNameless && seen else item.feeling.any (· ∈ felt)

/-- Whether the item is a spellbook at the position. -/
def isBookAt (item : Item) (position : Nat) : Bool := item.book.any (·.position = position)

end Item

/-- Whether a name fits a pattern: it begins with what follows a leading caret, or else holds
the pattern somewhere. -/
def fitsPattern (pattern name : Text) : Bool :=
  match pattern with
  | '^' :: start => start.isPrefixOf name
  | _ => Text.occurs pattern name

namespace Rule

/-- Whether a flag of the rule holds of an item. Collecting is left to `selects`. -/
def holds (r : Rule) (item : Item) : Flag → Bool
  | .all | .collecting | .items => true
  | .unaware => !item.aware
  | .unidentified => !item.known && item.feeling.isNone
  | .identified => item.known
  | .starIdentified => item.known && item.fullyKnown
  | .boosted => item.isBoosted && !(!item.known && item.questTarget)
  | .moreDice => r.dice ≤ item.dice.product
  | .moreBonus => item.known && (r.bonus : Int) ≤ item.bonus
  | .worthless => item.value ≤ 0
  | .artifact => item.known && item.artifact
  | .ego => item.isEgo && (item.known || item.feeling = some .excellent)
  | .good => item.hasQuality (0 < item.toAc || 0 < item.toHit + item.toDam) [.good]
  | .nameless => item.hasQuality true [.average, .good, .broken, .cursed]
  | .average =>
    item.hasQuality
      (!item.cursed && !item.broken && item.toAc ≤ 0 && item.toHit + item.toDam ≤ 0) [.average]
  | .rare => item.rare
  | .common => !item.rare
  | .wanted => item.kind = .corpse && item.remains.any (·.wanted)
  | .unique => item.kind ∈ [.corpse, .statue] && item.remains.any (·.unique)
  | .human => item.kind = .corpse && item.remains.any (·.humanoid)
  | .unreadable => item.book.any (!·.readable)
  | .realm1 => item.book.any (·.realm = .first)
  | .realm2 => item.book.any (·.realm = .second)
  | .first => item.isBookAt 0
  | .second => item.isBookAt 1
  | .third => item.isBookAt 2
  | .fourth => item.isBookAt 3
  | .weapons => item.kind.isWeapon
  | .favoriteWeapons => item.favorite
  | .armors => item.kind.isArmour
  | .missiles => item.kind.isAmmo
  | .devices => item.kind.isDevice
  | .lights => item.kind = .light
  | .junks => item.kind.isJunk
  | .corpses => item.kind ∈ [.corpse, .skeleton]
  | .spellbooks => item.kind = .spellbook
  | .hafted => item.kind = .hafted
  | .shields => item.kind = .shield
  | .bows => item.kind = .bow
  | .rings => item.kind = .ring
  | .amulets => item.kind = .amulet
  | .suits => item.kind.isBodyArmour
  | .cloaks => item.kind = .cloak
  | .helms => item.kind ∈ [.helm, .crown]
  | .gloves => item.kind = .gloves
  | .boots => item.kind = .boots

/-- Whether the rule selects an item under a name, which is expected in lower case. -/
def selects (r : Rule) (item : Item) (name : Text) : Bool :=
  r.flags.toList.all (r.holds item) && fitsPattern r.name name &&
    (!r.flags.contains .collecting || item.stackable)

end Rule

end LootRules
