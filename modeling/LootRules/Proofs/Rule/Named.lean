import LootRules.Proofs.Rule.RoundTrip
import LootRules.Proofs.Text.Lines
import LootRules.RuleSet

/-!
# Rules that give a name

A line with a colon and a name is a rule for the items that have it in their names. The pattern of
the rule and the name of an item are both lowered, but not in the same way: of the pattern only the
letters A to Z, of the name all letters. A pattern with a capital beyond ASCII is therefore found in
no name at all, since lowering leaves no such capital. Without one, the two ways of lowering come to
the same, and the rule finds the items of its name.
-/

namespace LootRules

namespace Text

/-- Whether a character beyond ASCII has another form in lower case. -/
def isCapitalBeyondAscii (c : Char) : Bool := 0x80 ≤ c.toNat && lowerChar c ≠ [c]

/-- Beyond ASCII, the letters A to Z are not met. -/
theorem toLower_eq_self_of_beyond {c : Char} (h : 0x80 ≤ c.toNat) : c.toLower = c := by
  refine toLower_eq_self ?_
  rw [Bool.eq_false_iff, ne_eq, isUpper_iff]
  omega

/-- Any other character is lowered like a letter of ASCII. -/
theorem lowerChar_of_not {c : Char} (h : isCapitalBeyondAscii c = false) :
    c ≠ 'Σ' ∧ lowerChar c = [c.toLower] := by
  constructor
  · rintro rfl
    exact absurd h (by decide +kernel)
  · by_cases ascii : c.toNat < 0x80
    · rw [lowerChar, if_pos ascii]
    · have beyond := Nat.le_of_not_lt ascii
      rw [isCapitalBeyondAscii, decide_eq_true beyond, Bool.true_and] at h
      rw [toLower_eq_self_of_beyond beyond]
      simpa using h

/-- Without capitals beyond ASCII the two ways of lowering come to the same. -/
theorem lowerAfter_eq_asciiLower {s : Text} (h : ∀ c ∈ s, isCapitalBeyondAscii c = false)
    (after : Bool) : lowerAfter after s = asciiLower s := by
  induction s generalizing after with
  | nil => rfl
  | cons c s ih =>
    obtain ⟨here, later⟩ := List.forall_mem_cons.mp h
    obtain ⟨sigma, same⟩ := lowerChar_of_not here
    rw [lowerAfter, if_neg sigma, same, ih later]
    rfl

/-- A text lowered the one way occurs in itself lowered the other way if it has no capitals beyond
ASCII. -/
theorem occurs_asciiLower_lower_iff {s : Text} :
    occurs (asciiLower s) (lower s) ↔ ∀ c ∈ s, isCapitalBeyondAscii c = false := by
  rw [occurs_iff]
  constructor
  · intro inside c mem
    rw [Bool.eq_false_iff]
    intro capital
    obtain ⟨beyond, other⟩ : 0x80 ≤ c.toNat ∧ lowerChar c ≠ [c] := by
      simpa [isCapitalBeyondAscii] using capital
    have pattern : c ∈ asciiLower s := by
      have lowered : c.toLower ∈ asciiLower s := List.mem_map_of_mem mem
      rwa [toLower_eq_self_of_beyond beyond] at lowered
    exact other (mem_lowerAfter (inside.subset pattern)).1.2
  · intro noCapital
    simp only [lower, lowerAfter_eq_asciiLower noCapital, List.infix_rfl]

end Text

namespace Rule

/-- The rule of a colon and a name asks for the name alone. -/
theorem parse_colon {name : Text} (h : '#' ∉ name) :
    parse (':' :: name) false = some { name := Text.asciiLower name } := by
  have native : isForeign (':' :: name) = false :=
    isForeign_of_head fun c hc => by obtain rfl := Option.some.inj hc; decide
  have marks : readMarks {} (':' :: name) = ({}, ':' :: name) :=
    readMarks_of_head fun c hc => by obtain rfl := Option.some.inj hc; decide
  have mark : '#' ∉ ':' :: name := by
    rw [List.mem_cons, not_or]
    exact ⟨by decide, h⟩
  have lowered : Text.asciiLower (':' :: name) = ':' :: Text.asciiLower name := rfl
  rw [parse, native]
  simp only [marks, Text.splitFirst_of_not_mem mark, lowered]
  rw [ofBody, readPhrases_of_none (readPhrase?_colon _), readEnding_colon]
  rfl

/-- A rule that asks for a name alone selects the items whose names fit the pattern. -/
theorem selects_of_name (pattern : Text) (item : Item) (name : Text) :
    ({ name := pattern } : Rule).selects item name = fitsPattern pattern name := by
  have flags : (∅ : FlagSet).toList = [] := by decide +kernel
  have collects : (∅ : FlagSet).contains .collecting = false := by decide +kernel
  rw [selects]
  simp only [flags, collects, List.all_nil, Bool.true_and, Bool.not_false, Bool.true_or,
    Bool.and_true]

end Rule

/-- A pattern without an anchor fits the names in which it occurs. -/
theorem fitsPattern_of_not_anchored {pattern : Text} (h : pattern.head? ≠ some Rule.anchor)
    (name : Text) : fitsPattern pattern name = Text.occurs pattern name := by
  unfold fitsPattern
  split
  · exact absurd rfl h
  · rfl

/-- Lowering makes no anchor. -/
theorem Text.head?_asciiLower_ne {s : Text} (h : s.head? ≠ some Rule.anchor) :
    (asciiLower s).head? ≠ some Rule.anchor := by
  cases s with
  | nil => exact nofun
  | cons c s =>
    have other : Rule.anchor ∉ [c] := fun mem => h (congrArg some (List.mem_singleton.mp mem).symm)
    have lowered := not_mem_asciiLower_of_not_mem (.inl (by decide)) other
    exact fun first => lowered (List.mem_singleton.mpr (Option.some.inj first).symm)

namespace RuleSet

/-- A set of one rule finds what the rule selects. -/
theorem find?_singleton (r : Rule) (item : Item) (name : Text) :
    (⟨[r]⟩ : RuleSet).find? item name =
      if r.selects item (Text.lower name) then some (0, r) else none := by
  rw [find?, List.zipIdx_singleton, List.find?_singleton]
  dsimp only
  split <;> rfl

/-- The rule set of a line with a colon and a name has one rule. It finds every item under that
name, unless there is a capital beyond ASCII in the name; then it finds none. -/
theorem find?_named {name : Text} (mark : '#' ∉ name) (unbroken : name.Unbroken)
    (anchor : name.head? ≠ some Rule.anchor) (player : Player) :
    let set := ofLines player [':' :: name]
    let rule : Rule := { name := Text.asciiLower name }
    ofText player (':' :: name) = set ∧ set.rules = [rule] ∧
      ∀ item, set.find? item name =
        if name.any Text.isCapitalBeyondAscii then none else some (0, rule) := by
  intro set rule
  have line : Text.lines (':' :: name) = [':' :: name] := by
    refine Text.lines_of_unbroken ⟨?_, ?_⟩ (List.cons_ne_nil _ _)
    · rw [List.mem_cons, not_or]
      exact ⟨by decide, unbroken.feed⟩
    · rw [List.mem_cons, not_or]
      exact ⟨by decide, unbroken.ret⟩
  have one : set = ⟨[rule]⟩ := by
    have rules : set.rules = (Rule.parse (':' :: name) false).toList ++ [] := rfl
    rw [Rule.parse_colon mark] at rules
    exact congrArg RuleSet.mk rules
  have found (item : Item) : rule.selects item (Text.lower name) ↔
      name.any Text.isCapitalBeyondAscii = false := by
    rw [Rule.selects_of_name, fitsPattern_of_not_anchored (Text.head?_asciiLower_ne anchor),
      Text.occurs_asciiLower_lower_iff, List.any_eq_false]
    simp only [Bool.not_eq_true]
  refine ⟨by rw [ofText, line], congrArg RuleSet.rules one, fun item => ?_⟩
  rw [one, find?_singleton]
  simp only [found]
  cases name.any Text.isCapitalBeyondAscii <;> rfl

/-- A name with capitals of ASCII and small letters beyond. -/
def accentedRing : Text := "Ring of Lúthien".toList

/-- A rule with such a name finds the items of that name. -/
theorem find?_named_accentedRing :
    '#' ∉ accentedRing ∧ accentedRing.Unbroken ∧ accentedRing.head? ≠ some Rule.anchor ∧
      ∀ item, (ofLines {} [':' :: accentedRing]).find? item accentedRing =
        some (0, { name := "ring of lúthien".toList }) := by
  have mark : '#' ∉ accentedRing := by decide +kernel
  have unbroken : accentedRing.Unbroken := ⟨by decide +kernel, by decide +kernel⟩
  have anchor : accentedRing.head? ≠ some Rule.anchor := by decide +kernel
  have capitals : accentedRing.any Text.isCapitalBeyondAscii = false := by decide +kernel
  have lowered : Text.asciiLower accentedRing = "ring of lúthien".toList := by decide +kernel
  refine ⟨mark, unbroken, anchor, fun item => ?_⟩
  rw [(find?_named mark unbroken anchor {}).2.2 item, capitals, lowered]
  rfl

/-- A rule with a capital beyond ASCII does not find the item of its name. -/
theorem find?_accentedCapital_ne :
    let name := "Épée".toList
    let set := ofLines {} [':' :: name]
    set.rules.length = 1 ∧ set.find? { name } name = none := by
  decide +kernel

end RuleSet

end LootRules
