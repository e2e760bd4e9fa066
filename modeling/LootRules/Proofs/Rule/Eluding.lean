import LootRules.Proofs.Rule.OfItem

/-!
# Items that elude their own rules

The rule of an item selects the item, with six exceptions. Four are about the impression of an item
that is recognised but not identified: one impression is asked for as another, and the others are
taken at their word, which can be wrong about the kind of the item, its value, or its powers. One is
about the dice of a quest target, which do not count before it is identified, and one about the
title of an ego item, which stands in place of the name and need not be found in it.

There is no other: whatever else the rule asks for was read off the item in the same words.
-/

namespace LootRules

/-- What lets an item elude its own rule under a name. -/
inductive Item.Eludes (item : Item) (name : Text) : Prop
  /-- The rule asks for an average item, which no item that feels uncursed is taken for. -/
  | uncursed (aware : item.aware) (unknown : ¬ item.known) (felt : item.feeling = some .uncursed)
  /-- The rule asks for equipment without a name of its own. -/
  | notEquipment {feeling : Item.Feeling} (aware : item.aware) (unknown : ¬ item.known)
      (felt : item.feeling = some feeling) (plain : feeling ∈ [.average, .good, .broken, .cursed])
      (other : ¬ item.kind.isEquipment)
  /-- The rule asks for an item of no value. -/
  | valuable {feeling : Item.Feeling} (aware : item.aware) (unknown : ¬ item.known)
      (felt : item.feeling = some feeling)
      (bad : feeling ∈ [.broken, .cursed, .terrible, .worthless])
      (value : 0 < item.value) (unwanted : ¬ item.isWantedCorpse)
  /-- The rule asks for an ego item. -/
  | notEgo (aware : item.aware) (unknown : ¬ item.known) (felt : item.feeling = some .excellent)
      (plain : ¬ item.isEgo)
  /-- The rule asks for boosted dice. -/
  | questTarget (unknown : ¬ item.known) (target : item.questTarget)
      (melee : item.kind.isMeleeWeapon) (dice : item.dice ≠ item.baseDice)
  /-- The rule asks for the title. -/
  | title {title : Text} (aware : item.aware) (known : item.known) (ego : item.ego = some title)
      (kind : item.kind.isWeapon ∨ item.kind.isArmour ∨ item.kind.isAmmo)
      (absent : ¬ fitsPattern (Text.lower title) (Text.lower name))

/-- Boosted dice are dice of a melee weapon that are not those of its kind. -/
theorem Item.isBoosted_iff {item : Item} :
    item.isBoosted ↔ item.kind.isMeleeWeapon ∧ item.dice ≠ item.baseDice := by
  rw [isBoosted, Bool.and_eq_true, bne_iff_ne]

/-- The rule of an item selects it under its name unless the item eludes it. -/
theorem Rule.selects_ofItem_iff_not_eludes (item : Item) (name : Text) :
    (ofItem item name).selects item (Text.lower name) ↔ ¬ item.Eludes name := by
  refine (selects_ofItem_iff item name {}).trans ?_
  constructor
  · rintro ⟨deserved, boosted, titled⟩ eludes
    cases eludes with
    | uncursed aware unknown felt =>
      exact (Item.deserves_iff.mp (deserved aware unknown _ felt)).1 rfl
    | notEquipment aware unknown felt plain other =>
      exact other ((Item.deserves_iff.mp (deserved aware unknown _ felt)).2.1 plain)
    | valuable aware unknown felt bad value unwanted =>
      have worth := (Item.deserves_iff.mp (deserved aware unknown _ felt)).2.2.1 bad unwanted
      exact Int.not_lt.mpr worth value
    | notEgo aware unknown felt plain =>
      exact plain ((Item.deserves_iff.mp (deserved aware unknown _ felt)).2.2.2 rfl)
    | questTarget unknown target melee dice =>
      exact boosted ⟨Item.isBoosted_iff.mpr ⟨melee, dice⟩, unknown, target⟩
    | title aware known ego kind absent =>
      have isTitled : item.isTitled :=
        Item.isTitled_iff.mpr ⟨aware, known, congrArg Option.isSome ego, kind⟩
      rw [ego] at titled
      exact absent (titled isTitled)
  · intro caught
    refine ⟨fun aware unknown feeling felt => ?_, ?_, fun titled => ?_⟩
    · refine Item.deserves_iff.mpr ⟨?_, fun plain => ?_, fun bad unwanted => ?_, ?_⟩
      · rintro rfl
        exact caught (.uncursed aware unknown felt)
      · exact Decidable.byContradiction fun other =>
          caught (.notEquipment aware unknown felt plain other)
      · exact Int.not_lt.mp fun value => caught (.valuable aware unknown felt bad value unwanted)
      · rintro rfl
        exact Decidable.byContradiction fun plain => caught (.notEgo aware unknown felt plain)
    · rintro ⟨boosted, unknown, target⟩
      obtain ⟨melee, dice⟩ := Item.isBoosted_iff.mp boosted
      exact caught (.questTarget unknown target melee dice)
    · obtain ⟨aware, known, isEgo, kind⟩ := Item.isTitled_iff.mp titled
      obtain ⟨title, ego⟩ := Option.isSome_iff_exists.mp isEgo
      rw [ego, Option.getD_some]
      exact Decidable.byContradiction fun absent => caught (.title aware known ego kind absent)

end LootRules
