import LootRules.Proofs.Rule.OfItem
import LootRules.Session

/-!
# Registering items

Registering looks for a rule that selects the item, and where there is none it adds one at the end
of the rules. The rule is meant to be found the next time the item is met. It is, unless the item
slips past it: an item that feels uncursed is asked to be average, which no item that feels so is;
the dice of a quest target do not count before it is identified; and a title that begins with the
anchor is sought at the start of the name. An item that slips past is registered anew, with the same
line, whenever it is met.
-/

namespace LootRules

/-- A rule added at the end is found by the items that no rule before it selects. -/
theorem RuleSet.find?_push (s : RuleSet) (r : Rule) (item : Item) (name : Text) :
    (s.push r).find? item name =
      (s.find? item name).or
        (if r.selects item (Text.lower name) then some (s.rules.length, r) else none) := by
  rw [find?, push, List.zipIdx_append, List.find?_append, Option.map_or, find?]
  congr 1
  cases selected : r.selects item (Text.lower name) <;> simp [selected]

namespace Session

/-- The rule for an item under a name does not depend on the case of the name. -/
theorem destroyRule_eq (item : Item) (name : Text) :
    destroyRule item name =
      { Rule.ofItem item name with action := Action.single false .destroy } := by
  have same : Rule.ofItem item (Text.lower name) = Rule.ofItem item name := by
    rw [Rule.ofItem, Rule.ofItem, Item.rulePattern, Item.rulePattern, Text.lower_lower]
  rw [destroyRule, same]

/-- The lines that come before the first registered item. -/
def opening (s : Session) : List Text :=
  if s.player.autoregister then [] else registerWarning ++ [registerHeader]

/-- The session with the rule of an item added. -/
def withItem (s : Session) (item : Item) (name : Text) : Session where
  player := { s.player with autoregister := true }
  rules := s.rules.push (destroyRule item name)
  lastDestroyed := some item

/-- An item that a rule selects is not registered. -/
theorem register_of_found {s : Session} {item : Item} {name : Text} {i : Nat} {r : Rule}
    (h : s.rules.find? item name = some (i, r)) :
    s.register item name = (s, if r.action.destroy then .alreadyDestroyed else .refused) := by
  rw [register, h]

/-- An item that no rule selects is registered. -/
theorem register_of_none {s : Session} {item : Item} {name : Text}
    (h : s.rules.find? item name = none) :
    s.register item name =
      (s.withItem item name, .added (s.opening ++ [(destroyRule item name).render])) := by
  rw [register, h]
  rfl

/-- Lines are added just for items that no rule selects. -/
theorem find?_eq_none_of_added {s : Session} {item : Item} {name : Text} {lines : List Text}
    (h : (s.register item name).2 = .added lines) : s.rules.find? item name = none := by
  cases found : s.rules.find? item name with
  | none => rfl
  | some entry =>
    rw [register_of_found found] at h
    dsimp only at h
    split at h <;> contradiction

end Session

/-- The impressions that items make, as far as they tell something: only equipment makes any, only
ego items feel excellent, and only items of no value feel broken, cursed, terrible or worthless. -/
structure Item.Consistent (item : Item) : Prop where
  equipment : item.feeling.isSome → item.kind.isEquipment
  excellent : item.feeling = some .excellent → item.isEgo
  worthless : ∀ feeling ∈ item.feeling,
    feeling ∈ [.broken, .cursed, .terrible, .worthless] → item.value ≤ 0

/-- Items that are not found by the rules that are made from them: those that are recognised and
feel uncursed; melee weapons with other dice than those of their kind, while they are a quest target
that is not identified; and ego items with a title that begins with the anchor, unless the name
begins with the rest of the title. -/
def Item.SlipsPast (item : Item) (name : Text) : Prop :=
  (item.aware ∧ ¬ item.known ∧ item.feeling = some .uncursed) ∨
    (item.isBoosted ∧ ¬ item.known ∧ item.questTarget) ∨
    (item.isTitled ∧ ∃ start, Text.lower (item.ego.getD []) = Rule.anchor :: start ∧
      ¬ start <+: Text.lower name)

/-- A consistent item deserves its impression, unless that is to be uncursed. -/
theorem Item.Consistent.deserves_iff {item : Item} (h : item.Consistent) {feeling : Item.Feeling}
    (felt : item.feeling = some feeling) : item.Deserves feeling ↔ feeling ≠ .uncursed := by
  have equipment : item.kind.isEquipment := h.equipment (felt ▸ rfl)
  rw [Item.deserves_iff]
  exact and_iff_left ⟨fun _ => equipment, fun bad _ => h.worthless feeling felt bad,
    fun same => h.excellent (same ▸ felt)⟩

/-- A pattern that occurs in a name fits it, unless it begins with the anchor and the name does not
begin with the rest. -/
theorem fitsPattern_iff_of_occurs {pattern name : Text} (h : Text.occurs pattern name) :
    fitsPattern pattern name ↔
      ¬ ∃ start, pattern = Rule.anchor :: start ∧ ¬ start <+: name := by
  unfold fitsPattern
  split
  · next start => simp [Rule.anchor]
  · next other =>
    refine iff_of_true h ?_
    rintro ⟨start, rfl, -⟩
    exact other start rfl

namespace Session

/-- The rule of a consistent item, whose title is part of its name if it has one, selects it
unless it slips past. -/
theorem selects_destroyRule_iff {item : Item} {name : Text} (consistent : item.Consistent)
    (titled : ∀ title ∈ item.ego, Text.occurs (Text.lower title) (Text.lower name)) :
    (destroyRule item name).selects item (Text.lower name) ↔ ¬ item.SlipsPast name := by
  have deserved : (item.aware → ¬ item.known → ∀ feeling ∈ item.feeling, item.Deserves feeling) ↔
      ¬ (item.aware ∧ ¬ item.known ∧ item.feeling = some .uncursed) := by
    cases feeling : item.feeling with
    | none => simp
    | some felt =>
      have deserved := consistent.deserves_iff feeling
      simp [deserved]
  have pattern : (item.isTitled → fitsPattern (Text.lower (item.ego.getD [])) (Text.lower name)) ↔
      ¬ (item.isTitled ∧ ∃ start, Text.lower (item.ego.getD []) = Rule.anchor :: start ∧
        ¬ start <+: Text.lower name) := by
    rw [not_and]
    refine imp_congr_right fun isTitled => fitsPattern_iff_of_occurs ?_
    obtain ⟨title, named⟩ := Option.isSome_iff_exists.mp (Item.isTitled_iff.mp isTitled).2.2.1
    rw [named]
    exact titled title named
  rw [destroyRule_eq, Rule.selects_ofItem_iff, deserved, pattern, Item.SlipsPast, not_or, not_or]

/-- An item that has been registered is found by its rule, the last, and cannot be registered again;
but if it slips past its rule, it is not found, and is registered again with the same line. -/
theorem register_again {s : Session} {item : Item} {name : Text} {lines : List Text}
    (consistent : item.Consistent)
    (titled : ∀ title ∈ item.ego, Text.occurs (Text.lower title) (Text.lower name))
    (added : (s.register item name).2 = .added lines) :
    let s' := (s.register item name).1
    let rule := destroyRule item name
    (¬ item.SlipsPast name →
      s'.rules.find? item name = some (s.rules.rules.length, rule) ∧
        s'.register item name = (s', .alreadyDestroyed)) ∧
    (item.SlipsPast name →
      s'.rules.find? item name = none ∧
        s'.register item name =
          ({ s' with rules := s'.rules.push rule }, .added [rule.render])) := by
  have unfound := find?_eq_none_of_added added
  have selects := selects_destroyRule_iff consistent titled
  rw [register_of_none unfound]
  have found := s.rules.find?_push (destroyRule item name) item name
  rw [unfound, Option.none_or] at found
  refine ⟨fun caught => ?_, fun slips => ?_⟩
  · rw [if_pos (selects.mpr caught)] at found
    exact ⟨found, (register_of_found found).trans rfl⟩
  · rw [if_neg (fun selected => selects.mp selected slips)] at found
    exact ⟨found, register_of_none found⟩

/-- A sword with a title. -/
def slayingSword : Item where
  name := "Long Sword (Slaying) (2d5)"
  kind := .sword
  ego := some "(Slaying)".toList

/-- The sword is registered under its title, and then it is known to be destroyed. -/
theorem register_again_slayingSword :
    let s := start [] {}
    let s' := (s.register slayingSword slayingSword.name).1
    slayingSword.Consistent ∧ ¬ slayingSword.SlipsPast slayingSword.name ∧
      (s.register slayingSword slayingSword.name).2 =
        .added (registerWarning ++ [registerHeader, "(!common ego weapons:(slaying)".toList]) ∧
      s'.register slayingSword slayingSword.name = (s', .alreadyDestroyed) := by
  intro s s'
  have consistent : slayingSword.Consistent := ⟨nofun, nofun, nofun⟩
  have caught : ¬ slayingSword.SlipsPast slayingSword.name := by
    rintro (⟨-, unknown, -⟩ | ⟨-, unknown, -⟩ | ⟨-, start, anchored, -⟩)
    · exact unknown rfl
    · exact unknown rfl
    · have title : Text.lower (slayingSword.ego.getD []) = "(slaying)".toList := by
        decide +kernel
      rw [title] at anchored
      have first : "(slaying)".toList.head? = some Rule.anchor := congrArg List.head? anchored
      exact absurd first (by decide)
  have titled : ∀ title ∈ slayingSword.ego,
      Text.occurs (Text.lower title) (Text.lower slayingSword.name) := by
    intro title named
    rw [← Option.some.inj named]
    decide +kernel
  have added : (s.register slayingSword slayingSword.name).2 =
      .added (registerWarning ++ [registerHeader, "(!common ego weapons:(slaying)".toList]) := by
    decide +kernel
  exact ⟨consistent, caught, added, ((register_again consistent titled added).1 caught).2⟩

/-- A dagger that feels uncursed. -/
def uncursedDagger : Item where
  name := "Dagger"
  kind := .sword
  known := false
  feeling := some .uncursed

/-- The dagger is registered, and then it is registered again, as its rule asks for an average
weapon and does not select it. -/
theorem register_uncursedDagger_twice :
    let s := start [] {}
    let s' := (s.register uncursedDagger uncursedDagger.name).1
    uncursedDagger.Consistent ∧ uncursedDagger.ego = none ∧
      (s.register uncursedDagger uncursedDagger.name).2 =
        .added (registerWarning ++ [registerHeader, "(!average weapons:^dagger".toList]) ∧
      s'.rules.find? uncursedDagger uncursedDagger.name = none ∧
      (s'.register uncursedDagger uncursedDagger.name).2 =
        .added ["(!average weapons:^dagger".toList] := by
  have consistent : uncursedDagger.Consistent := by
    refine ⟨fun _ => rfl, nofun, fun feeling felt valueless => ?_⟩
    rw [← Option.some.inj felt] at valueless
    exact absurd valueless (by decide)
  exact ⟨consistent, by decide +kernel⟩

end Session

end LootRules
