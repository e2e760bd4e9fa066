import LootRules.Proofs.Rule.Word

/-!
# Noun phrases read back

Behind the adjectives a rule line has `artifact`, one noun, both or neither, and then the name.
Behind a word of the noun phrase the name stands after a colon, which ends the phrase; without
such a word the name stands alone, and then it must not begin with a keyword.
-/

namespace LootRules

/-- The name of a rule behind its noun. -/
def colonName (name : Text) : Text := if name.isEmpty then [] else ':' :: name

/-- A name behind a noun begins with a colon. -/
theorem head?_colonName {name : Text} : ∀ c ∈ (colonName name).head?, c = ':' := by
  intro c hc
  rw [colonName] at hc
  split at hc
  · simp at hc
  · exact (Option.some.inj hc).symm

/-- Behind the colon stands the name. -/
theorem tail_colonName (name : Text) : (colonName name).tail = name := by
  cases name <;> rfl

/-- A colon begins no keyword. -/
theorem startsText_of_colon {s : Text} (h : ∀ c ∈ s.head?, c = ':') :
    Keyword.startsText s = false := by
  refine Keyword.startsText_eq_false fun c hc => ?_
  rw [h c hc]
  decide

/-- A colon begins no phrase. -/
theorem readPhrase?_colon (name : Text) : readPhrase? (':' :: name) = none :=
  readPhrase?_eq_none_of_startsText
    (startsText_of_colon fun _ first => (Option.some.inj first).symm)

/-- No space is skipped in front of a colon. -/
theorem skipSpace_of_colon {s : Text} (h : ∀ c ∈ s.head?, c = ':') : Keyword.skipSpace s = s := by
  refine Keyword.skipSpace_of_head?_ne fun space => ?_
  exact absurd (h ' ' space) (by decide)

/-- The keyword before the noun belongs to the table. -/
theorem Keyword.artifact_mem_table : Keyword.artifact ∈ Keyword.table :=
  List.mem_iff_getElem?.mpr ⟨26, rfl⟩

/-- A line that ends in its noun phrase has what stands behind the colon for its name. -/
theorem ending_of_colon {s : Text} (flags : List Flag) (other : List Flag × Text) :
    (∀ c ∈ s.head?, c = ':') →
      (match s with
        | ':' :: name => (flags, name)
        | [] => (flags, [])
        | _ => other) = (flags, s.tail) := by
  intro colon
  cases s with
  | nil => rfl
  | cons c s =>
    rw [colon c rfl]
    rfl

/-- The word `artifact` with a name behind a colon, or with none, is read back. -/
theorem readEnding_artifact {s : Text} (h : ∀ c ∈ s.head?, c = ':') :
    readEnding (Keyword.artifact.text ++ s) = ([.artifact], s.tail) := by
  have noNoun : Keyword.nounAt? s = none :=
    Keyword.nounAt?_eq_none_of_startsText (startsText_of_colon h)
  simp only [readEnding, Keyword.behind?_append, skipSpace_of_colon h, Option.getD_some, noNoun]
  exact ending_of_colon _ _ h

/-- A noun with a name behind a colon, or with none, is read back. -/
theorem readEnding_noun {k : Keyword} (hk : k ∈ Keyword.nouns) {s : Text}
    (h : ∀ c ∈ s.head?, c = ':') : readEnding (k.text ++ s) = ([k.flag], s.tail) := by
  have noArtifact : Keyword.behind? Keyword.artifact.text (k.text ++ s) = none := by
    obtain ⟨mem, noun⟩ := Keyword.mem_nouns.mp hk
    refine Keyword.behind?_eq_none_iff.mpr fun begun => ?_
    have same := Keyword.eq_of_begins_append Keyword.artifact_mem_table mem
      (by rw [Keyword.isAdjective, noun]) (Keyword.begins_iff.mpr begun)
    rw [← same] at noun
    contradiction
  simp only [readEnding, noArtifact, Option.getD_none, Keyword.nounAt?_append hk,
    Option.bind_some, Keyword.behind?_append, skipSpace_of_colon h, Option.getD_some]
  exact ending_of_colon _ _ h

/-- The word `artifact`, a noun and a name behind a colon, or none, are read back. -/
theorem readEnding_artifact_noun {k : Keyword} (hk : k ∈ Keyword.nouns) {s : Text}
    (h : ∀ c ∈ s.head?, c = ':') :
    readEnding (Keyword.artifact.text ++ ' ' :: (k.text ++ s)) =
      ([.artifact, k.flag], s.tail) := by
  simp only [readEnding, Keyword.behind?_append, Keyword.skipSpace_cons_space, Option.getD_some,
    Keyword.nounAt?_append hk, Option.bind_some, skipSpace_of_colon h]
  exact ending_of_colon _ _ h

/-- The words of a noun phrase: `artifact` and one noun, and either may be missing. -/
def nounWords (artifact : Bool) (noun : Option Keyword) : List Keyword :=
  (if artifact then [Keyword.artifact] else []) ++ noun.toList

/-- A noun phrase with a name behind a colon, or with none, is read back. -/
theorem readEnding_nounWords {artifact : Bool} {noun : Option Keyword}
    (mem : ∀ k ∈ noun, k ∈ Keyword.nouns) (nonempty : nounWords artifact noun ≠ []) {s : Text}
    (h : ∀ c ∈ s.head?, c = ':') :
    readEnding (Text.unwords ((nounWords artifact noun).map (·.text)) ++ s) =
      ((nounWords artifact noun).map (·.flag), s.tail) := by
  cases noun with
  | none =>
    cases artifact with
    | false => exact absurd rfl nonempty
    | true => exact readEnding_artifact h
  | some k =>
    have hk := mem k rfl
    cases artifact with
    | false => exact readEnding_noun hk h
    | true =>
      have text : Text.unwords ((nounWords true (some k)).map (·.text)) ++ s =
          Keyword.artifact.text ++ ' ' :: (k.text ++ s) := List.append_assoc _ _ _
      rw [text]
      exact readEnding_artifact_noun hk h

/-- A noun phrase is made of keywords that are no adjectives. -/
theorem of_mem_nounWords {artifact : Bool} {noun : Option Keyword}
    (mem : ∀ k ∈ noun, k ∈ Keyword.nouns) {k : Keyword} (hk : k ∈ nounWords artifact noun) :
    k ∈ Keyword.table ∧ k.isAdjective = false := by
  rw [nounWords, List.mem_append, Option.mem_toList] at hk
  rcases hk with word | word
  · split at word
    · rw [List.mem_singleton.mp word]
      exact ⟨Keyword.artifact_mem_table, rfl⟩
    · exact absurd word List.not_mem_nil
  · obtain ⟨listed, slot⟩ := Keyword.mem_nouns.mp (mem k word)
    exact ⟨listed, by rw [Keyword.isAdjective, slot]⟩

/-- A noun phrase holds no phrase of the first part of a line. -/
theorem readPhrase?_of_isAdjective_eq_false {k : Keyword} (hk : k ∈ Keyword.table)
    (noun : k.isAdjective = false) (rest : Text) : readPhrase? (k.text ++ rest) = none := by
  refine readPhrase?_eq_none fun j hj begun => ?_
  obtain ⟨mem, adjective⟩ := Keyword.mem_adjectives.mp hj
  have same := Keyword.eq_of_begins_append mem hk noun begun
  rw [same, noun] at adjective
  contradiction

/-- Behind a colon stands a name. -/
theorem readEnding_colon (name : Text) : readEnding (':' :: name) = ([], name) := by
  have starts : Keyword.startsText (':' :: name) = false :=
    startsText_of_colon fun c hc => (Option.some.inj hc).symm
  simp only [readEnding, Keyword.behind?_eq_none_of_startsText Keyword.artifact_mem_table starts,
    Option.getD_none, Keyword.nounAt?_eq_none_of_startsText starts, Option.bind_none]
  rfl

/-- A text that is no keyword is a name. -/
theorem readEnding_name {name : Text} (starts : Keyword.startsText name = false)
    (nonempty : name ≠ []) (colon : name.head? ≠ some ':') : readEnding name = ([], name) := by
  simp only [readEnding, Keyword.behind?_eq_none_of_startsText Keyword.artifact_mem_table starts,
    Option.getD_none, Keyword.nounAt?_eq_none_of_startsText starts, Option.bind_none]
  split
  · exact absurd rfl colon
  · exact absurd rfl nonempty
  · rfl

namespace Rule

/-- The adjectives and thresholds of a rule, in the order in which they are written. -/
def adjectives (r : Rule) : List Keyword := r.keywords.filter (·.isAdjective)

/-- The noun phrase of a rule. -/
def nounPhrase (r : Rule) : List Keyword := r.keywords.filter (!·.isAdjective)

/-- Adjectives are written before the noun phrase. -/
theorem keywords_eq_append (r : Rule) : r.keywords = r.adjectives ++ r.nounPhrase := by
  have parts : Keyword.table =
      Keyword.table.filter (·.isAdjective) ++ Keyword.table.filter (!·.isAdjective) := rfl
  have swap (p : Keyword → Bool) : r.keywords.filter p =
      (Keyword.table.filter p).filter (·.flag ∈ r.flags) := by
    simp only [keywords, List.filter_filter, Bool.and_comm]
  rw [adjectives, nounPhrase, swap, swap, ← List.filter_append, ← parts, keywords]

/-- The adjectives of a rule are adjectives. -/
theorem mem_adjectives_of_mem {r : Rule} {k : Keyword} (h : k ∈ r.adjectives) :
    k ∈ Keyword.adjectives := by
  obtain ⟨mem, adjective⟩ := List.mem_filter.mp h
  exact Keyword.mem_adjectives.mpr ⟨(List.mem_filter.mp mem).1, adjective⟩

/-- The noun phrase has no adjective. -/
theorem mem_nounPhrase {r : Rule} {k : Keyword} :
    k ∈ r.nounPhrase ↔ (k ∈ Keyword.table ∧ k.flag ∈ r.flags) ∧ k.isAdjective = false := by
  rw [nounPhrase, List.mem_filter, keywords, List.mem_filter, decide_eq_true_iff,
    Bool.not_eq_true']

/-- Words of the noun phrase are written as they are. -/
theorem word_of_mem_nounPhrase {r : Rule} {k : Keyword} (h : k ∈ r.nounPhrase) :
    r.word k = k.text := by
  refine word_of_slot fun suffix slot => ?_
  have adjective := (mem_nounPhrase.mp h).2
  rw [Keyword.isAdjective, slot] at adjective
  contradiction

/-- A noun phrase without words is not written. -/
theorem hasNounPhrase_eq_false_iff {r : Rule} : r.hasNounPhrase = false ↔ r.nounPhrase = [] := by
  rw [hasNounPhrase, List.any_eq_false, nounPhrase, List.filter_eq_nil_iff]

/-- A rule that has a line has at most one noun. -/
theorem exists_noun {r : Rule} (h : r.Writable) :
    ∃ noun : Option Keyword, (∀ k ∈ noun, k ∈ Keyword.nouns) ∧
      (Keyword.table.filter (·.slot = .noun)).filter (·.flag ∈ r.flags) = noun.toList := by
  have distinct := (Keyword.pairwise_flag.filter (·.slot = .noun)).filter (·.flag ∈ r.flags)
  have noun : ∀ k ∈ (Keyword.table.filter (·.slot = .noun)).filter (·.flag ∈ r.flags),
      k ∈ Keyword.nouns ∧ k.flag ∈ r.flags ∧ k.flag.isNoun := by
    intro k hk
    simp only [List.mem_filter, decide_eq_true_iff] at hk
    exact ⟨Keyword.mem_nouns.mpr hk.1, hk.2, (Keyword.regular_of_mem hk.1.1).noun.mp hk.1.2⟩
  generalize (Keyword.table.filter (·.slot = .noun)).filter (·.flag ∈ r.flags) = ks at *
  cases ks with
  | nil => exact ⟨none, nofun, rfl⟩
  | cons k ks =>
    obtain ⟨mem, flag, isNoun⟩ := noun k List.mem_cons_self
    cases ks with
    | nil => exact ⟨some k, fun j hj => Option.some.inj hj ▸ mem, rfl⟩
    | cons j ks =>
      obtain ⟨-, flag', isNoun'⟩ := noun j (by simp)
      have same := h.noun_unique k.flag flag j.flag flag' isNoun isNoun'
      exact absurd same ((List.pairwise_cons.mp distinct).1 j List.mem_cons_self)

/-- The noun phrase of a rule is made of `artifact` and one noun, and either may be missing. -/
theorem exists_nounWords {r : Rule} (h : r.Writable) :
    ∃ artifact noun, (∀ k ∈ noun, k ∈ Keyword.nouns) ∧
      r.nounPhrase = nounWords artifact noun := by
  have parts : Keyword.table.filter (!·.isAdjective) =
      Keyword.artifact :: Keyword.table.filter (·.slot = .noun) := rfl
  have swap : r.nounPhrase =
      (Keyword.table.filter (!·.isAdjective)).filter (·.flag ∈ r.flags) := by
    simp only [nounPhrase, keywords, List.filter_filter, Bool.and_comm]
  obtain ⟨noun, mem, one⟩ := exists_noun h
  refine ⟨decide (Keyword.artifact.flag ∈ r.flags), noun, mem, ?_⟩
  rw [swap, parts, List.filter_cons, one, nounWords]
  split <;> rfl

/-- A noun phrase with a name is read back. -/
theorem readEnding_nounPhrase {r : Rule} (h : r.Writable) (nonempty : r.nounPhrase ≠ []) :
    readEnding (Text.unwords (r.nounPhrase.map r.word) ++ colonName r.name) =
      (r.nounPhrase.map (·.flag), r.name) := by
  have words : r.nounPhrase.map r.word = r.nounPhrase.map (·.text) :=
    List.map_congr_left fun k hk => word_of_mem_nounPhrase hk
  obtain ⟨artifact, noun, mem, phrase⟩ := exists_nounWords h
  rw [words, phrase, readEnding_nounWords mem (phrase ▸ nonempty) head?_colonName, tail_colonName]

end Rule

end LootRules
