import LootRules.Rule.OfItem

/-!
# What the rule of an item gives away

As long as an item has not been recognised and identified, its rule is the rule of what the player
sees of it. Whatever else is true of the item is not looked at, or only behind a test that such an
item fails: its powers and marks speak of its quality once it is learnt, and its title stands in
place of the name once it is learnt. What remains say, and what books say, is seen on the item, and
so is the corpse with a price on its head for which the impression of being worthless is dropped.

Hence two items that look alike have the same rule, and from the rules written down for items
nobody can tell which of them has the powers.
-/

namespace LootRules

namespace Item

/-- An item of which nothing is true but what is seen of this one. -/
def appearance (item : Item) : Item where
  kind := item.kind
  aware := item.aware
  known := item.known
  feeling := item.feeling
  dice := item.dice
  baseDice := item.baseDice
  remains := item.remains
  book := item.book
  inscription := item.inscription

/-- The same is seen of two items. -/
structure LooksLike (a b : Item) : Prop where
  kind : a.kind = b.kind
  aware : a.aware = b.aware
  known : a.known = b.known
  feeling : a.feeling = b.feeling
  dice : a.dice = b.dice
  baseDice : a.baseDice = b.baseDice
  remains : a.remains = b.remains
  book : a.book = b.book
  inscription : a.inscription = b.inscription

variable {a b item : Item}

/-- Items that look alike have the same appearance. -/
theorem LooksLike.appearance_eq (h : a.LooksLike b) : a.appearance = b.appearance := by
  simp only [appearance, h.kind, h.aware, h.known, h.feeling, h.dice, h.baseDice, h.remains,
    h.book, h.inscription]

/-- The title of an item is not looked at before the item is learnt. -/
theorem isTitled_of_not_isLearnt (h : ¬ item.isLearnt) : item.isTitled = false := by
  simp [isTitled, h]

/-- The quality of an item is what the impression says before the item is learnt. -/
theorem qualityFlags_of_not_isLearnt (h : ¬ item.isLearnt) :
    item.qualityFlags = if item.aware then feelingFlags item.feeling else [.unaware] := by
  rw [isLearnt, Bool.and_eq_true, not_and] at h
  cases aware : item.aware with
  | false => simp [qualityFlags, aware]
  | true => simp [qualityFlags, aware, h aware]

/-- The rule of an item that is not learnt asks for what is seen. -/
theorem ruleFlags_appearance (h : ¬ item.isLearnt) :
    item.appearance.ruleFlags = item.ruleFlags := by
  have seen : ¬ item.appearance.isLearnt := h
  have quality : item.appearance.qualityFlags = item.qualityFlags := by
    rw [qualityFlags_of_not_isLearnt h, qualityFlags_of_not_isLearnt seen]
    rfl
  rw [ruleFlags, quality]
  rfl

/-- The rule of an item that is not learnt is for its name, or for no name. -/
theorem rulePattern_appearance (h : ¬ item.isLearnt) (name : Text) :
    item.appearance.rulePattern name = item.rulePattern name := by
  have seen : ¬ item.appearance.isLearnt := h
  rw [rulePattern, rulePattern, isTitled_of_not_isLearnt h, isTitled_of_not_isLearnt seen]
  rfl

end Item

namespace Rule

variable {a b item : Item}

/-- The rule of an item that is not learnt is that of its appearance. -/
theorem ofItem_appearance (h : ¬ item.isLearnt) (name : Text) :
    ofItem item.appearance name = ofItem item name := by
  rw [ofItem, Item.ruleFlags_appearance h, Item.rulePattern_appearance h]
  rfl

/-- Items that are not learnt have the same rule if they look alike. -/
theorem ofItem_eq_of_looksLike (h : ¬ a.isLearnt) (alike : a.LooksLike b) (name : Text) :
    ofItem a name = ofItem b name := by
  have other : ¬ b.isLearnt := by
    rwa [Item.isLearnt, ← alike.aware, ← alike.known]
  calc ofItem a name
      = ofItem a.appearance name := (ofItem_appearance h name).symm
    _ = ofItem b.appearance name := by rw [alike.appearance_eq]
    _ = ofItem b name := ofItem_appearance other name

/-- A worthless corpse on which there is a price, and one that looks the same and has all the powers
that are hidden. -/
theorem ofItem_eq_of_looksLike_wantedCorpse :
    let plain : Item :=
      { name := "Bullroarer Corpse".toList, kind := .corpse, known := false
        feeling := some .worthless, value := 0
        remains := some { unique := true, humanoid := true, wanted := true } }
    let powerful : Item :=
      { plain with
        ego := some "(Blessed)".toList, artifact := true, rare := true, cursed := true
        broken := true, favorite := true, questTarget := true, fullyKnown := true, pval := 3
        toHit := 9, toDam := 9, toAc := 5, value := 5000, stackable := true }
    ¬ plain.isLearnt ∧ plain.LooksLike powerful ∧
      ofItem plain plain.matchName = ofItem powerful plain.matchName := by
  intro plain powerful
  have unlearnt : ¬ plain.isLearnt := by decide
  have alike : plain.LooksLike powerful := by constructor <;> rfl
  exact ⟨unlearnt, alike, ofItem_eq_of_looksLike unlearnt alike plain.matchName⟩

end Rule

end LootRules
