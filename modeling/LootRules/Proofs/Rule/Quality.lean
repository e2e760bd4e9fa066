import LootRules.Proofs.Rule.Narrowing

/-!
# Qualities that go together

The flags of identification and of quality do not contradict one another. What is good or average
is nameless, nothing is both, and nothing nameless is an ego item or an artifact, whether the item
is judged by its bonuses, being identified, or by the impression it made. Identified and
unidentified exclude each other, and what is fully identified is identified.

The qualities are one test (`hasQuality`) with two measures, one for each way of judging. So a
quality goes along with another when both of its measures do, and two qualities exclude each other
when their measures do in both ways. Identified equipment without a name that is neither cursed nor
broken is good or average, but an impression may leave it open which.
-/

namespace LootRules

namespace Item

variable {item : Item} {seen seen' : Bool} {felt felt' : List Feeling}

/-- A quality is that of equipment. An item that is identified has no name of its own and is seen to
have the quality, and another one feels like it. -/
theorem hasQuality_iff : item.hasQuality seen felt ↔
    item.kind.isEquipment ∧
      (item.known → item.isNameless ∧ seen) ∧
      (¬ item.known → ∃ feeling ∈ felt, item.feeling = some feeling) := by
  rw [hasQuality, Bool.and_eq_true]
  refine and_congr_right fun _ => ?_
  cases known : item.known with
  | true => simp
  | false =>
    cases feeling : item.feeling with
    | none => simp
    | some feeling => simp

/-- A quality goes along with one for which no more has to be seen and no more be felt. -/
theorem hasQuality_of_imp (sees : seen → seen') (feels : felt ⊆ felt')
    (h : item.hasQuality seen felt) : item.hasQuality seen' felt' := by
  obtain ⟨equipment, identified, sensed⟩ := hasQuality_iff.mp h
  refine hasQuality_iff.mpr ⟨equipment, fun known => ?_, fun unknown => ?_⟩
  · exact ⟨(identified known).1, sees (identified known).2⟩
  · obtain ⟨feeling, mem, feels_like⟩ := sensed unknown
    exact ⟨feeling, feels mem, feels_like⟩

/-- Qualities exclude each other if they cannot both be seen or both be felt. -/
theorem not_hasQuality_and (sees : ¬ (seen ∧ seen')) (feels : ∀ feeling ∈ felt, feeling ∉ felt') :
    ¬ (item.hasQuality seen felt ∧ item.hasQuality seen' felt') := by
  rintro ⟨h, h'⟩
  obtain ⟨_, identified, sensed⟩ := hasQuality_iff.mp h
  obtain ⟨_, identified', sensed'⟩ := hasQuality_iff.mp h'
  by_cases known : item.known
  · exact sees ⟨(identified known).2, (identified' known).2⟩
  · obtain ⟨feeling, mem, same⟩ := sensed known
    obtain ⟨feeling', mem', same'⟩ := sensed' known
    obtain rfl : feeling = feeling' := Option.some.inj (same.symm.trans same')
    exact feels feeling mem mem'

/-- Equipment that is identified and has no name of its own, and is neither cursed nor broken. -/
structure Sound (item : Item) : Prop where
  equipment : item.kind.isEquipment
  known : item.known
  not_ego : ¬ item.isEgo
  not_artifact : ¬ item.artifact
  not_cursed : ¬ item.cursed
  not_broken : ¬ item.broken

/-- Sound equipment has the qualities that are seen on it. -/
theorem Sound.hasQuality_iff (h : item.Sound) : item.hasQuality seen felt ↔ seen := by
  simp [hasQuality, isNameless, h.equipment, h.known, h.not_ego, h.not_artifact]

end Item

namespace Rule

/-- The rule with one flag for all others. -/
def only (r : Rule) (f : Flag) : Rule := { r with flags := .ofList [f] }

/-- What is asked for by single flags is consistent. -/
structure Coherent (asks : Flag → Prop) : Prop where
  nameless_of_good : asks .good → asks .nameless
  nameless_of_average : asks .average → asks .nameless
  not_good_and_average : ¬ (asks .good ∧ asks .average)
  not_nameless_and_ego : ¬ (asks .nameless ∧ asks .ego)
  not_nameless_and_artifact : ¬ (asks .nameless ∧ asks .artifact)
  not_identified_and_unidentified : ¬ (asks .identified ∧ asks .unidentified)
  identified_of_starIdentified : asks .starIdentified → asks .identified

variable {r : Rule} {item : Item} {name : Text}

/-- Nothing nameless is an ego item. -/
theorem not_holds_nameless_and_ego : ¬ (r.holds item .nameless ∧ r.holds item .ego) := by
  rintro ⟨nameless, ego⟩
  obtain ⟨_, identified, sensed⟩ := Item.hasQuality_iff.mp nameless
  simp only [holds, Bool.and_eq_true, Bool.or_eq_true, decide_eq_true_eq] at ego
  by_cases known : item.known
  · have plain := (identified known).1
    simp [Item.isNameless, ego.1] at plain
  · obtain ⟨feeling, mem, felt⟩ := sensed known
    have excellent := felt.symm.trans (ego.2.resolve_left known)
    cases excellent
    contradiction

/-- Nothing nameless is an artifact. -/
theorem not_holds_nameless_and_artifact :
    ¬ (r.holds item .nameless ∧ r.holds item .artifact) := by
  rintro ⟨nameless, artifact⟩
  obtain ⟨_, identified, _⟩ := Item.hasQuality_iff.mp nameless
  simp only [holds, Bool.and_eq_true] at artifact
  have plain := (identified artifact.1).1
  simp [Item.isNameless, artifact.2] at plain

/-- The flags that hold of an item are coherent. -/
theorem coherent_holds (r : Rule) (item : Item) : Coherent fun f => r.holds item f where
  nameless_of_good := Item.hasQuality_of_imp (fun _ => rfl) (by decide)
  nameless_of_average := Item.hasQuality_of_imp (fun _ => rfl) (by decide)
  not_good_and_average := by
    refine Item.not_hasQuality_and (fun ⟨good, average⟩ => ?_) (by decide)
    simp only [Bool.or_eq_true, Bool.and_eq_true, decide_eq_true_eq] at good average
    omega
  not_nameless_and_ego := not_holds_nameless_and_ego
  not_nameless_and_artifact := not_holds_nameless_and_artifact
  not_identified_and_unidentified := by
    rintro ⟨identified, unidentified⟩
    simp only [holds, Bool.and_eq_true] at identified unidentified
    simp [identified] at unidentified
  identified_of_starIdentified := fun star => (Bool.and_eq_true_iff.mp star).1

/-- Sound equipment is good when it is not average. -/
theorem holds_good_iff_not_average (r : Rule) (h : item.Sound) :
    r.holds item .good ↔ ¬ r.holds item .average := by
  have uncursed : item.cursed = false := by simpa using h.not_cursed
  have unbroken : item.broken = false := by simpa using h.not_broken
  simp only [holds, h.hasQuality_iff, uncursed, unbroken, Bool.not_false, Bool.true_and,
    Bool.or_eq_true, Bool.and_eq_true, decide_eq_true_eq]
  omega

/-- A rule with one flag, which is not that of collecting, selects the items of which the flag holds
and whose names the pattern fits. -/
theorem selects_only_iff {f : Flag} (h : f ≠ .collecting) :
    (r.only f).selects item name ↔ r.holds item f ∧ fitsPattern r.name name := by
  have tested : (r.only f).holds item f ↔ r.holds item f :=
    ⟨holds_of_le (Nat.le_refl r.dice) (Nat.le_refl r.bonus),
      holds_of_le (Nat.le_refl r.dice) (Nat.le_refl r.bonus)⟩
  have flag (g : Flag) : g ∈ (r.only f).flags ↔ g = f :=
    FlagSet.mem_ofList.trans List.mem_singleton
  rw [selects_iff]
  simp only [flag, forall_eq, h.symm, false_imp_iff, and_true, tested]
  rfl

/-- A flag that goes along with another is asked for along with it. -/
theorem selects_only_of_imp {f g : Flag} (hf : f ≠ .collecting) (hg : g ≠ .collecting)
    (imp : r.holds item f → r.holds item g) (h : (r.only f).selects item name) :
    (r.only g).selects item name :=
  (selects_only_iff hg).mpr (And.imp_left imp ((selects_only_iff hf).mp h))

/-- Flags that exclude each other are not both asked for with success. -/
theorem not_selects_only_and {f g : Flag} (hf : f ≠ .collecting) (hg : g ≠ .collecting)
    (apart : ¬ (r.holds item f ∧ r.holds item g)) :
    ¬ ((r.only f).selects item name ∧ (r.only g).selects item name) := by
  rw [selects_only_iff hf, selects_only_iff hg]
  exact fun both => apart ⟨both.1.1, both.2.1⟩

/-- Rules with one flag select items coherently, and where the pattern fits, sound equipment is
selected as good or else as average. -/
theorem coherent_selects (r : Rule) (item : Item) (name : Text) :
    (Coherent fun f => (r.only f).selects item name) ∧
      (item.Sound → fitsPattern r.name name →
        ((r.only .good).selects item name ↔ ¬ (r.only .average).selects item name)) := by
  have holds := coherent_holds r item
  refine ⟨?_, fun sound fits => ?_⟩
  · constructor
    case nameless_of_good =>
      exact selects_only_of_imp (by decide) (by decide) holds.nameless_of_good
    case nameless_of_average =>
      exact selects_only_of_imp (by decide) (by decide) holds.nameless_of_average
    case not_good_and_average =>
      exact not_selects_only_and (by decide) (by decide) holds.not_good_and_average
    case not_nameless_and_ego =>
      exact not_selects_only_and (by decide) (by decide) holds.not_nameless_and_ego
    case not_nameless_and_artifact =>
      exact not_selects_only_and (by decide) (by decide) holds.not_nameless_and_artifact
    case not_identified_and_unidentified =>
      exact not_selects_only_and (by decide) (by decide) holds.not_identified_and_unidentified
    case identified_of_starIdentified =>
      exact selects_only_of_imp (by decide) (by decide) holds.identified_of_starIdentified
  · rw [selects_only_iff (by decide), selects_only_iff (by decide)]
    simp only [fits, and_true]
    exact holds_good_iff_not_average r sound

/-- A sword with a bonus to hit and a greater loss in damage is average and not good. -/
theorem coherent_selects_unevenSword :
    let sword : Item :=
      { name := "Long Sword".toList, kind := .sword, dice := ⟨2, 5⟩, baseDice := ⟨2, 5⟩
        toHit := 3, toDam := -4 }
    let r : Rule := { name := "^long".toList }
    sword.Sound ∧ fitsPattern r.name sword.matchName ∧
      (r.only .average).selects sword sword.matchName ∧
      (r.only .nameless).selects sword sword.matchName ∧
      ¬ (r.only .good).selects sword sword.matchName := by
  intro sword r
  have sound : sword.Sound := by constructor <;> decide
  have fits : fitsPattern r.name sword.matchName := by decide +kernel
  have average : (r.only .average).selects sword sword.matchName := by decide +kernel
  have verdicts := coherent_selects r sword sword.matchName
  refine ⟨sound, fits, average, verdicts.1.nameless_of_average average, fun good => ?_⟩
  exact (verdicts.2 sound fits).mp good average

end Rule

end LootRules
