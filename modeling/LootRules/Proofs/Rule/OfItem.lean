import LootRules.Proofs.Rule.RoundTrip
import LootRules.Proofs.Text.LowerCase
import LootRules.Rule.OfItem
import LootRules.Rule.Select

/-!
# The rule of an item selects it

The rule of an item is made from what the player knows of it, and then asked about the same item.
For most of its parts the answer is yes, whatever the item is: whose remains it is, which book, and
its category are asked for in the words in which they were told. Three parts can fail. The
impression that an item made may be wrong, and one impression is asked for as another; dice other
than those of the kind do not count while a quest target is not identified; and the title of an
ego item need not stand in the name.

The line of the rule can be read back whenever the name pattern is free of the mark of an
inscription. Its last word never merges with the pattern, which has a noun in front of it if it is
a title, and begins with the anchor otherwise.
-/

namespace LootRules

namespace Item

/-- An item that made an impression is what the impression says of its quality. No item is what the
impression of being uncursed is taken for. -/
def Deserves (item : Item) : Feeling → Prop
  | .special => True
  | .average | .good => item.kind.isEquipment
  | .broken | .cursed => item.kind.isEquipment ∧ (¬ item.isWantedCorpse → item.value ≤ 0)
  | .terrible | .worthless => ¬ item.isWantedCorpse → item.value ≤ 0
  | .excellent => item.isEgo
  | .uncursed => False

/-- What an item has to be like for the impressions that it can make. -/
theorem deserves_iff {item : Item} {feeling : Feeling} :
    item.Deserves feeling ↔
      feeling ≠ .uncursed ∧
        (feeling ∈ [.average, .good, .broken, .cursed] → item.kind.isEquipment) ∧
        (feeling ∈ [.broken, .cursed, .terrible, .worthless] →
          ¬ item.isWantedCorpse → item.value ≤ 0) ∧
        (feeling = .excellent → item.isEgo) := by
  cases feeling <;> simp [Deserves]

/-- What a player can learn of an item, apart from its category. -/
def learnable : List Flag :=
  [.unaware, .unidentified, .artifact, .ego, .nameless, .average, .worthless, .common, .boosted,
   .wanted, .unique, .human, .unreadable, .realm1, .realm2, .first, .second, .third, .fourth]

/-- Every impression speaks of something that can be learnt. -/
theorem feelingFlags_subset (feeling : Option Feeling) : feelingFlags feeling ⊆ learnable := by
  rcases feeling with - | feeling
  · decide
  · cases feeling <;> decide

/-- The quality of an item can be learnt. -/
theorem qualityFlags_subset (item : Item) : item.qualityFlags ⊆ learnable := by
  rw [qualityFlags]
  split
  · decide
  · split
    · exact feelingFlags_subset item.feeling
    · split
      · split <;> decide
      · split
        · decide
        · split <;> decide

/-- Whose remains an item is can be learnt. -/
theorem remainsFlags_subset (item : Item) : item.remainsFlags ⊆ learnable := by
  rw [remainsFlags]
  split
  · decide
  · refine List.append_subset.mpr ⟨List.append_subset.mpr ⟨?_, ?_⟩, ?_⟩ <;> split <;> decide

/-- Which book an item is can be learnt. -/
theorem bookFlags_subset (item : Item) : item.bookFlags ⊆ learnable := by
  rw [bookFlags]
  split
  · decide
  · refine List.append_subset.mpr ⟨List.append_subset.mpr ⟨?_, ?_⟩, ?_⟩ <;> split <;> decide

/-- The rule of an item asks for what can be learnt, and for the category. -/
theorem mem_ruleFlags {item : Item} {f : Flag} (h : f ∈ item.ruleFlags) :
    f ∈ learnable ∨ item.kind.noun? = some f := by
  simp only [ruleFlags, List.mem_append, List.mem_ite_nil_right, List.mem_singleton,
    Option.mem_toList] at h
  rcases h with (((quality | ⟨-, rfl⟩) | remains) | book) | noun
  · exact .inl (item.qualityFlags_subset (List.mem_filter.mp quality).1)
  · exact .inl (by decide)
  · exact .inl (item.remainsFlags_subset remains)
  · exact .inl (item.bookFlags_subset book)
  · exact .inr noun

/-- Categories are nouns. -/
theorem isNoun_of_noun? {kind : Kind} {f : Flag} (h : kind.noun? = some f) : f.isNoun := by
  cases kind <;> first | contradiction | exact Option.some.inj h ▸ rfl

/-- The only noun in the rule of an item is the category. -/
theorem noun?_of_mem_ruleFlags {item : Item} {f : Flag} (h : f ∈ item.ruleFlags)
    (noun : f.isNoun) : item.kind.noun? = some f := by
  have adjectives : ∀ f ∈ learnable, f.isNoun = false := by decide
  refine (mem_ruleFlags h).resolve_left fun learnt => ?_
  rw [adjectives f learnt] at noun
  contradiction

/-- Whether to collect, and numbers of dice and bonuses, are nothing that the rule of an item asks
for. -/
theorem not_mem_ruleFlags (item : Item) :
    .collecting ∉ item.ruleFlags ∧ .moreDice ∉ item.ruleFlags ∧ .moreBonus ∉ item.ruleFlags := by
  have unlisted {f : Flag} (apart : f ∉ learnable ∧ f.isNoun = false) : f ∉ item.ruleFlags := by
    intro mem
    rcases mem_ruleFlags mem with learnt | noun
    · exact apart.1 learnt
    · rw [isNoun_of_noun? noun] at apart
      exact absurd apart.2 nofun
  exact ⟨unlisted (by decide), unlisted (by decide), unlisted (by decide)⟩

/-- A title is that of an ego item that has been learnt, of a kind to fight with. -/
theorem isTitled_iff {item : Item} :
    item.isTitled ↔
      item.aware ∧ item.known ∧ item.isEgo ∧
        (item.kind.isWeapon ∨ item.kind.isArmour ∨ item.kind.isAmmo) := by
  simp only [isTitled, isLearnt, Bool.and_eq_true, Bool.or_eq_true, and_assoc, or_assoc]

/-- An item with a title is of a kind that has a category. -/
theorem exists_noun?_of_isTitled {item : Item} (h : item.isTitled) :
    ∃ f, item.kind.noun? = some f := by
  have kind := (isTitled_iff.mp h).2.2.2
  cases other : item.kind <;> first | exact ⟨_, rfl⟩ | (rw [other] at kind; contradiction)

end Item

namespace Rule

/-- The flags of a rule hold of an item. -/
def Holds (r : Rule) (item : Item) (flags : List Flag) : Prop := ∀ f ∈ flags, r.holds item f

/-- Flags and more flags hold if either list does by itself. -/
theorem holds_append {r : Rule} {item : Item} {as bs : List Flag} :
    r.Holds item (as ++ bs) ↔ r.Holds item as ∧ r.Holds item bs := List.forall_mem_append

/-- The remains of a monster are what they are asked to be. -/
theorem holds_remainsFlags (r : Rule) (item : Item) : r.Holds item item.remainsFlags := by
  intro f hf
  rw [Item.remainsFlags] at hf
  cases remains : item.remains with
  | none => simp [remains] at hf
  | some m =>
    simp only [remains, List.mem_append, List.mem_ite_nil_right, List.mem_singleton] at hf
    rcases hf with (⟨known, rfl⟩ | ⟨known, rfl⟩) | ⟨known, rfl⟩ <;>
      simpa [holds, remains] using known

/-- A book is the one it is asked to be. -/
theorem holds_bookFlags (r : Rule) (item : Item) : r.Holds item item.bookFlags := by
  intro f hf
  rw [Item.bookFlags] at hf
  cases book : item.book with
  | none => simp [book] at hf
  | some b =>
    simp only [book, List.mem_append] at hf
    rcases hf with (hf | hf) | hf
    · cases readable : b.readable with
      | true => simp [readable] at hf
      | false =>
        simp only [readable, Bool.false_eq_true, if_false, List.mem_singleton] at hf
        simp [hf, holds, book, readable]
    · cases realm : b.realm <;> simp [realm] at hf <;> simp [hf, holds, book, realm]
    · split at hf <;> simp at hf <;> simp_all [holds, Item.isBookAt]

/-- An item belongs to the category of its kind. -/
theorem holds_noun? (r : Rule) (item : Item) : r.Holds item item.kind.noun?.toList := by
  intro f hf
  cases kind : item.kind <;> simp [kind, Item.Kind.noun?] at hf <;>
    simp [hf, holds, kind] <;> decide

/-- What the impression of an unidentified item is taken for holds of it just if the item deserves
the impression. -/
theorem holds_feelingFlags_iff (r : Rule) {item : Item} (known : item.known = false) :
    r.Holds item ((Item.feelingFlags item.feeling).filter
        fun f => !(f = .worthless && item.isWantedCorpse)) ↔
      ∀ feeling ∈ item.feeling, item.Deserves feeling := by
  cases feeling : item.feeling with
  | none => simp [Item.feelingFlags, Holds, holds, known, feeling]
  | some feeling' =>
    cases feeling' <;>
      simp [Item.feelingFlags, Item.Deserves, Holds, holds, Item.hasQuality, known, feeling,
        List.filter_cons]

/-- What is asked of the quality of an item holds of it, if it deserves the impression it made, in
case there is nothing else to go by. -/
theorem holds_qualityFlags_iff (r : Rule) (item : Item) :
    r.Holds item (item.qualityFlags.filter fun f => !(f = .worthless && item.isWantedCorpse)) ↔
      (item.aware → ¬ item.known → ∀ feeling ∈ item.feeling, item.Deserves feeling) := by
  cases aware : item.aware with
  | false => simp [Item.qualityFlags, Holds, holds, aware]
  | true =>
    cases known : item.known with
    | false =>
      rw [Item.qualityFlags, aware, known]
      simpa using r.holds_feelingFlags_iff known
    | true =>
      refine iff_of_true (fun f hf => ?_) (fun _ absent => absurd rfl absent)
      have mem := (List.mem_filter.mp hf).1
      simp only [Item.qualityFlags, aware, known, Bool.not_true, Bool.false_eq_true,
        if_false] at mem
      split at mem
      · next ego =>
        rw [List.mem_append, List.mem_ite_nil_right, List.mem_singleton, List.mem_singleton] at mem
        rcases mem with ⟨common, rfl⟩ | rfl
        · simpa [holds] using (Bool.and_eq_true_iff.mp common).2
        · simp [holds, ego, known]
      · next ego =>
        split at mem
        · next artifact =>
          obtain rfl := List.mem_singleton.mp mem
          simp [holds, known, artifact]
        · next artifact =>
          rw [List.mem_ite_nil_right, List.mem_singleton] at mem
          obtain ⟨equipment, rfl⟩ := mem
          simp [holds, Item.hasQuality, Item.isNameless, equipment, known, ego, artifact]

/-- The empty pattern is found in every name. -/
theorem fitsPattern_nil (name : Text) : fitsPattern [] name = true := by
  cases name <;> rfl

/-- The pattern of an item's rule is found in the name of the item, if it is no title, or if the
title is. -/
theorem fitsPattern_rulePattern_iff (item : Item) (name : Text) :
    fitsPattern (item.rulePattern name) (Text.lower name) ↔
      (item.isTitled → fitsPattern (Text.lower (item.ego.getD [])) (Text.lower name)) := by
  rw [Item.rulePattern]
  cases item.isTitled with
  | true => simp
  | false =>
    refine iff_of_true ?_ nofun
    split
    · contradiction
    · split
      · exact fitsPattern_nil _
      · exact List.isPrefixOf_iff_prefix.mpr (List.prefix_refl _)

/-- The members of the set of some flags are those flags, one by one. -/
theorem all_toList_ofList {fs : List Flag} {p : Flag → Bool} :
    (FlagSet.ofList fs).toList.all p ↔ ∀ f ∈ fs, p f := by
  rw [List.all_eq_true]
  refine forall_congr' fun f => imp_congr_left ?_
  rw [FlagSet.toList, List.mem_filter]
  exact (and_iff_right (Flag.mem_flags f)).trans FlagSet.mem_ofList

/-- The rule of an item selects it under its name just if these three hold: the item deserves the
impression it made, where that is all there is to go by; other dice than those of its kind are not
those of a quest target that has not been identified; and a title that the rule asks for is found
in the name. -/
theorem selects_ofItem_iff (item : Item) (name : Text) (action : Action) :
    { Rule.ofItem item name with action }.selects item (Text.lower name) ↔
      (item.aware → ¬ item.known → ∀ feeling ∈ item.feeling, item.Deserves feeling) ∧
      ¬ (item.isBoosted ∧ ¬ item.known ∧ item.questTarget) ∧
      (item.isTitled → fitsPattern (Text.lower (item.ego.getD [])) (Text.lower name)) := by
  let r : Rule := { Rule.ofItem item name with action }
  have boosted : r.Holds item (if item.isBoosted then [.boosted] else []) ↔
      ¬ (item.isBoosted ∧ ¬ item.known ∧ item.questTarget) := by
    cases boosted : item.isBoosted <;> cases known : item.known <;>
      simp [Holds, holds, boosted, known]
  have flags : r.flags.toList.all (r.holds item) ↔
      (item.aware → ¬ item.known → ∀ feeling ∈ item.feeling, item.Deserves feeling) ∧
        ¬ (item.isBoosted ∧ ¬ item.known ∧ item.questTarget) := by
    refine all_toList_ofList.trans ?_
    change r.Holds item item.ruleFlags ↔ _
    rw [Item.ruleFlags, holds_append, holds_append, holds_append, holds_append,
      holds_qualityFlags_iff, boosted]
    simp only [holds_remainsFlags, holds_bookFlags, holds_noun?, and_true]
  have collecting : r.flags.contains .collecting = false := by
    rw [← Bool.not_eq_true]
    exact fun mem => item.not_mem_ruleFlags.1 (FlagSet.mem_ofList.mp mem)
  change (r.flags.toList.all (r.holds item) && fitsPattern (item.rulePattern name) (Text.lower name)
    && (!r.flags.contains .collecting || item.stackable)) = true ↔ _
  rw [collecting, Bool.not_false, Bool.true_or, Bool.and_true, Bool.and_eq_true, flags,
    fitsPattern_rulePattern_iff, and_assoc]

/-- The category of an item is the noun of its rule. -/
theorem noun?_ofItem {item : Item} {f : Flag} (h : item.kind.noun? = some f) (name : Text) :
    (Rule.ofItem item name).flags.noun? ≠ none := by
  intro absent
  have listed : f ∈ Flag.nouns := Flag.mem_nouns_iff.mpr (Item.isNoun_of_noun? h)
  have asked : f ∈ item.ruleFlags := List.mem_append_right _ (Option.mem_toList.mpr h)
  exact List.find?_eq_none.mp absent f listed (FlagSet.mem_ofList.mpr asked)

/-- The format of a line has room for the rule of an item, if the pattern does not hold the mark of
an inscription. -/
theorem writable_ofItem (item : Item) {name : Text} {action : Action}
    (policy : ∃ p, action.policy? = some p) (mark : '#' ∉ item.rulePattern name) :
    Writable { Rule.ofItem item name with action } where
  policy := policy
  noun_unique f hf g hg noun noun' := by
    have first := Item.noun?_of_mem_ruleFlags (FlagSet.mem_ofList.mp hf) noun
    have second := Item.noun?_of_mem_ruleFlags (FlagSet.mem_ofList.mp hg) noun'
    exact Option.some.inj (first.symm.trans second)
  dice_le := Nat.zero_le 99
  bonus_le := Nat.zero_le 99
  dice_eq_zero _ := rfl
  bonus_eq_zero _ := rfl
  not_mem_name := mark
  name_lower c hc := by
    change c ∈ item.rulePattern name at hc
    rw [Item.rulePattern] at hc
    split at hc
    · exact Text.isUpper_eq_false_of_mem_lower hc
    · split at hc
      · contradiction
      · rcases List.mem_cons.mp hc with rfl | mem
        · rfl
        · exact Text.isUpper_eq_false_of_mem_lower mem

/-- The last word of an item's rule and its pattern never merge. -/
theorem not_mergesIntoRealm_ofItem (item : Item) (name : Text) (action : Action) :
    ¬ MergesIntoRealm { Rule.ofItem item name with action } := by
  intro merges
  have begun : Keyword.realmWord <+: item.rulePattern name := merges.name
  rw [Item.rulePattern] at begun
  split at begun
  · next titled =>
    obtain ⟨f, noun⟩ := Item.exists_noun?_of_isTitled titled
    exact noun?_ofItem noun name merges.noun
  · split at begun
    · exact absurd begun (by decide)
    · exact absurd (List.cons_prefix_cons.mp begun).1 (by decide)

/-- With any single policy, the line of an item's rule gives the rule back just if the pattern does
not hold the mark of an inscription. -/
theorem parse_render_withAction_iff (item : Item) (name : Text) {action : Action}
    (policy : ∃ p, action.policy? = some p) :
    let r := { Rule.ofItem item name with action }
    parse r.render true = some r ↔ '#' ∉ r.name := by
  intro r
  constructor
  · intro read
    exact (writable_of_parse read).not_mem_name
  · intro mark
    have room : Writable r := writable_ofItem item policy mark
    have free : ¬ MergesIntoRealm r := not_mergesIntoRealm_ofItem item name action
    rw [parse_render room]
    exact congrArg some (ofBody_body room free)

/-- The line of an item's rule gives the rule back just if the pattern does not hold the mark of an
inscription, and so it stays when the rule is given another policy or is hidden from the map. What
is inscribed on the item does not matter. -/
theorem parse_render_ofItem_iff (item : Item) (name : Text) :
    let r := Rule.ofItem item name
    (parse r.render true = some r ↔ '#' ∉ r.name) ∧
      ∀ p display,
        let r' := { r with action := Action.single display p }
        parse r'.render true = some r' ↔ '#' ∉ r'.name := by
  refine ⟨?_, fun p display => ?_⟩
  · exact parse_render_withAction_iff item name ⟨.pickup, rfl⟩
  · exact parse_render_withAction_iff item name ⟨p, Action.policy?_single display p⟩

end Rule

end LootRules
