import LootRules.Proofs.Rule.RoundTrip

/-!
# Rules in other words

Whoever writes a rule line by hand gives the adjectives and thresholds in any order, gives some
of them twice, and writes numbers with leading zeros. `Phrasing` is what can be written like
that in front of a name, and `Phrasing.rule` is the rule it means: the set of the flags that are
named, with the number given last for each threshold. Keywords have no word boundaries and some
begin others, but behind every phrase of such a line stands a space, a colon or nothing, and no
keyword begins as the rest of a realm's keyword does; so the reader never sees anything else in
it, and the order does not matter.
-/

namespace LootRules

/-- A rule line without marks and inscription as it can be written by hand: phrases, `artifact`, a
noun, and a name behind a colon. All parts may be missing. -/
structure Phrasing where
  words : List Wording
  artifact : Bool := false
  noun : Option Keyword := none
  name : Option Text := none
  noun_mem : ∀ k ∈ noun, k ∈ Keyword.nouns
  not_mem_name : ∀ text ∈ name, '#' ∉ text

namespace Phrasing

/-- The words behind the phrases. -/
def nounPhrase (p : Phrasing) : List Keyword := nounWords p.artifact p.noun

/-- What stands behind the words. -/
def ending (p : Phrasing) : Text := p.name.elim [] (List.cons ':')

/-- The line: the words with single spaces between them, and the name behind its colon. -/
def line (p : Phrasing) : Text :=
  Text.unwords (p.words.map (·.text) ++ p.nounPhrase.map (·.text)) ++ p.ending

/-- The flags of the noun phrase. A line with neither a noun phrase nor a colon is about items. -/
def nounFlags (p : Phrasing) : List Flag :=
  if p.nounPhrase.isEmpty && p.name.isNone then [.items] else p.nounPhrase.map (·.flag)

/-- The flags that are named. -/
def flags (p : Phrasing) : List Flag := p.words.map (·.keyword.flag) ++ p.nounFlags

/-- The number given last for a threshold, or zero. -/
def lastGiven (p : Phrasing) (f : Flag) : Nat :=
  ((p.words.filter (·.keyword.flag = f)).map (·.number)).getLast?.getD 0

/-- The rule that is meant. -/
def rule (p : Phrasing) : Rule where
  flags := .ofList p.flags
  dice := p.lastGiven .moreDice
  bonus := p.lastGiven .moreBonus
  name := Text.asciiLower (p.name.getD [])

/-- Behind the words stands a colon, if anything does. -/
theorem head?_ending (p : Phrasing) : ∀ c ∈ p.ending.head?, c = ':' := by
  intro c hc
  rw [ending] at hc
  cases name : p.name with
  | none =>
    rw [name] at hc
    contradiction
  | some text =>
    rw [name] at hc
    exact (Option.some.inj hc).symm

/-- Every word of a line begins with a keyword. -/
theorem exists_keyword_prefix (p : Phrasing) :
    ∀ w ∈ p.words.map (·.text) ++ p.nounPhrase.map (·.text),
      ∃ k ∈ Keyword.table, k.text <+: w := by
  intro w hw
  rcases List.mem_append.mp hw with phrase | noun
  · obtain ⟨v, -, rfl⟩ := List.mem_map.mp phrase
    obtain ⟨rest, text, -⟩ := v.exists_text_eq
    exact ⟨v.keyword, (Keyword.mem_adjectives.mp v.keyword_mem).1, rest, text.symm⟩
  · obtain ⟨k, hk, rfl⟩ := List.mem_map.mp noun
    exact ⟨k, (of_mem_nounWords p.noun_mem hk).1, List.prefix_rfl⟩

/-- A line begins with a keyword or a colon, if it is not empty. -/
theorem head?_line (p : Phrasing) : ∀ c ∈ p.line.head?, c.isLower ∨ c = '*' ∨ c = ':' := by
  have begun := p.exists_keyword_prefix
  rw [line]
  cases words : p.words.map (·.text) ++ p.nounPhrase.map (·.text) with
  | nil => exact fun c hc => .inr (.inr (p.head?_ending c hc))
  | cons w ws =>
    rw [words] at begun
    obtain ⟨k, hk, rest, text⟩ := begun w List.mem_cons_self
    obtain ⟨more, joined⟩ := Text.exists_unwords_cons_eq w ws
    obtain ⟨d, first, kind⟩ := Keyword.head_text hk
    intro c hc
    rw [joined, ← text, List.append_assoc, List.append_assoc, List.head?_append, first,
      Option.some_or, Option.mem_some_iff] at hc
    exact hc ▸ kind.elim .inl fun star => .inr (.inl star)

/-- The words of a line are plain. -/
theorem plain_words (p : Phrasing) :
    ∀ c ∈ Text.unwords (p.words.map (·.text) ++ p.nounPhrase.map (·.text)), Rule.Plain c := by
  refine Rule.plain_unwords fun w hw => ?_
  rcases List.mem_append.mp hw with phrase | noun
  · obtain ⟨v, -, rfl⟩ := List.mem_map.mp phrase
    exact Rule.plain_text v
  · obtain ⟨k, hk, rfl⟩ := List.mem_map.mp noun
    exact (Rule.plain_of_mem (of_mem_nounWords p.noun_mem hk).1).1

/-- The line holds no mark of an inscription. -/
theorem not_mem_line (p : Phrasing) : '#' ∉ p.line := by
  rw [line, List.mem_append, not_or]
  refine ⟨fun words => (p.plain_words '#' words).1 rfl, ?_⟩
  rw [ending]
  cases name : p.name with
  | none => exact List.not_mem_nil
  | some text =>
    rw [Option.elim_some, List.mem_cons, not_or]
    exact ⟨by decide, p.not_mem_name text name⟩

/-- The phrasing with its name in small letters. -/
def lowered (p : Phrasing) : Phrasing where
  words := p.words
  artifact := p.artifact
  noun := p.noun
  name := p.name.map Text.asciiLower
  noun_mem := p.noun_mem
  not_mem_name := by
    intro lower hl
    obtain ⟨text, name, rfl⟩ := Option.map_eq_some_iff.mp hl
    exact Text.not_mem_asciiLower_of_not_mem (by decide) (p.not_mem_name text name)

/-- In a line only the name can have capitals. -/
theorem asciiLower_line (p : Phrasing) : Text.asciiLower p.line = p.lowered.line := by
  have words := Text.asciiLower_eq_self fun c hc => (p.plain_words c hc).2
  have ending : Text.asciiLower p.ending = p.lowered.ending := by
    simp only [Phrasing.ending, lowered]
    cases p.name <;> rfl
  calc Text.asciiLower p.line
      = Text.asciiLower (Text.unwords (p.words.map (·.text) ++ p.nounPhrase.map (·.text))) ++
          Text.asciiLower p.ending := List.map_append
    _ = p.lowered.line := by rw [words, ending]; rfl

/-- The phrases of a line are read one by one, and the noun phrase and the name are left. -/
theorem readPhrases_line (p : Phrasing) :
    readPhrases p.line =
      (p.words.map (·.phrase), Text.unwords (p.nounPhrase.map (·.text)) ++ p.ending) := by
  rw [line]
  cases phrase : p.nounPhrase with
  | nil =>
    rw [List.map_nil, List.append_nil]
    exact Wording.readPhrases_unwords p.head?_ending
  | cons k ks =>
    have word : k ∈ p.nounPhrase := by
      rw [phrase]
      exact List.mem_cons_self
    obtain ⟨mem, noun⟩ := of_mem_nounWords p.noun_mem word
    obtain ⟨more, joined⟩ := Text.exists_unwords_cons_eq k.text (ks.map (·.text))
    have stop := readPhrase?_of_isAdjective_eq_false mem noun (more ++ p.ending)
    have free := Keyword.not_realmWord_prefix mem (more ++ p.ending)
    rw [List.map_cons, Wording.unwords_append_cons, joined, List.append_assoc, List.append_assoc,
      Wording.readPhrases_spaced fun _ _ _ => free, readPhrases_of_none stop, List.append_nil]

/-- The noun phrase and the name of a line are read as they are meant. -/
theorem readEnding_line (p : Phrasing) :
    readEnding (Text.unwords (p.nounPhrase.map (·.text)) ++ p.ending) =
      (p.nounFlags, p.name.getD []) := by
  have tail : p.ending.tail = p.name.getD [] := by
    rw [ending]
    cases p.name <;> rfl
  by_cases phrase : p.nounPhrase = []
  · rw [nounFlags, phrase, ending]
    cases p.name with
    | none => rfl
    | some text => exact readEnding_colon text
  · have written : p.nounPhrase.isEmpty = false := List.isEmpty_eq_false_iff.mpr phrase
    rw [nounFlags, written, Bool.false_and, if_neg Bool.false_ne_true, ← tail]
    exact readEnding_nounWords p.noun_mem phrase p.head?_ending

/-- The number that counts is the one given last. -/
theorem lastNumber_words (p : Phrasing) (f : Flag) :
    lastNumber f (p.words.map (·.phrase)) = p.lastGiven f := by
  rw [lastNumber, lastGiven, List.filter_map, List.getLast?_map, List.getLast?_map,
    Option.map_map]
  rfl

/-- A line in small letters is read as the rule that is meant. -/
theorem ofBody_line (p : Phrasing) :
    Rule.ofBody {} none p.line =
      { flags := .ofList p.flags, dice := p.lastGiven .moreDice,
        bonus := p.lastGiven .moreBonus, name := p.name.getD [] } := by
  have named : (p.words.map (·.phrase)).map (·.flag) = p.words.map (·.keyword.flag) :=
    List.map_map
  simp only [Rule.ofBody, p.readPhrases_line, p.readEnding_line, named, p.lastNumber_words]
  rfl

/-- The line of a phrasing has the rule that is meant. -/
theorem parse_line (p : Phrasing) : Rule.parse p.line true = some p.rule := by
  have native : isForeign p.line = false :=
    Rule.isForeign_of_head fun c hc => (Rule.not_mem_marks (p.head?_line c hc)).2
  have marked : readMarks {} p.line = ({}, p.line) :=
    readMarks_of_head fun c hc => (Rule.not_mem_marks (p.head?_line c hc)).1
  have whole : Text.splitFirst '#' p.line = (p.line, none) :=
    Text.splitFirst_of_not_mem p.not_mem_line
  have name : (p.name.map Text.asciiLower).getD [] = Text.asciiLower (p.name.getD []) := by
    cases p.name <;> rfl
  have named : p.lowered.name.isNone = p.name.isNone := Option.isNone_map
  have flags : p.lowered.flags = p.flags := by
    rw [Phrasing.flags, nounFlags, named]
    rfl
  have body : Rule.ofBody {} none p.lowered.line = p.rule := by
    rw [ofBody_line, rule, ← name, flags]
    rfl
  simp only [Rule.parse, native, marked, whole, asciiLower_line, body, Option.isSome_none,
    Bool.not_true, Bool.or_self, Bool.and_false, Bool.false_eq_true, if_false]

/-- The same phrases in another order, or some of them more often, mean the same rule, if the
numbers given last are the same. -/
theorem rule_eq_of_words {p : Phrasing} {words : List Wording}
    (same : ∀ w, w ∈ words ↔ w ∈ p.words)
    (dice : { p with words }.lastGiven .moreDice = p.lastGiven .moreDice)
    (bonus : { p with words }.lastGiven .moreBonus = p.lastGiven .moreBonus) :
    { p with words }.rule = p.rule := by
  have named (f : Flag) : f ∈ { p with words }.flags ↔ f ∈ p.flags := by
    simp only [flags, List.mem_append, List.mem_map, same]
    rfl
  have flags : FlagSet.ofList { p with words }.flags = FlagSet.ofList p.flags := by
    refine FlagSet.ext fun f => ?_
    rw [FlagSet.contains_ofList, FlagSet.contains_ofList, decide_eq_decide, named]
  rw [rule, rule, flags, dice, bonus]

/-- Each line that is written by hand like this has the rule that is meant: the set of the flags
that are named, the numbers given last, and the name in small letters. So the same phrases in
another order, or some of them more often, have the same rule if the last numbers are the
same. -/
theorem parse_line_of_words (p : Phrasing) :
    Rule.parse p.line true = some p.rule ∧ (∀ f, f ∈ p.rule.flags ↔ f ∈ p.flags) ∧
      ∀ words : List Wording, (∀ w, w ∈ words ↔ w ∈ p.words) →
        { p with words }.lastGiven .moreDice = p.lastGiven .moreDice →
        { p with words }.lastGiven .moreBonus = p.lastGiven .moreBonus →
        Rule.parse { p with words }.line true = some p.rule := by
  refine ⟨p.parse_line, fun f => FlagSet.mem_ofList, fun words same dice bonus => ?_⟩
  rw [parse_line, rule_eq_of_words same dice bonus]

/-- The adjective for good items. -/
def good : Wording := .adjective { text := "good", flag := .good } (by decide) rfl

/-- The adjective for rare items. -/
def rare : Wording := .adjective { text := "rare", flag := .rare } (by decide) rfl

/-- The threshold of the dice, with two digits. -/
def moreThan (tens units : Char) (number : tens.isDigit ∧ units.isDigit) : Wording :=
  .threshold { text := "more than", flag := .moreDice, slot := .threshold " dice" } " dice"
    [tens, units] (by decide) rfl (by simpa using number) (.inr rfl)

/-- Some phrases, with a word given twice and two numbers, a noun phrase and a name. -/
def rareBlades : Phrasing where
  words := [rare, good, moreThan '1' '2' ⟨rfl, rfl⟩, good, moreThan '0' '7' ⟨rfl, rfl⟩]
  artifact := true
  noun := some { text := "weapons", flag := .weapons, slot := .noun }
  name := some "Of Slaying".toList
  noun_mem := by decide +kernel
  not_mem_name := by decide +kernel

/-- The last number counts, and the first two words can change places. -/
theorem parse_line_of_words_rareBlades :
    rareBlades.line =
        "rare good more than 12 dice good more than 07 dice artifact weapons:Of Slaying".toList ∧
      Rule.parse rareBlades.line true =
        some { flags := .ofList [.rare, .good, .moreDice, .artifact, .weapons], dice := 7,
               name := "of slaying".toList } ∧
      Rule.parse ("good rare more than 12 dice good more than 07 dice ".toList ++
        "artifact weapons:Of Slaying".toList) true = Rule.parse rareBlades.line true := by
  have meant : rareBlades.rule =
      { flags := .ofList [.rare, .good, .moreDice, .artifact, .weapons], dice := 7,
        name := "of slaying".toList } := by decide +kernel
  obtain ⟨read, -, reordered⟩ := rareBlades.parse_line_of_words
  have swapped := reordered (good :: rare :: rareBlades.words.drop 2)
    (fun w => (List.Perm.swap rare good _).mem_iff) rfl rfl
  exact ⟨by decide +kernel, meant ▸ read, swapped.trans read.symm⟩

end Phrasing

end LootRules
