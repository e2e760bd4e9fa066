import LootRules.Proofs.Rule.NounPhrase

/-!
# Words and names read back

The body of a line, its words and its name, is read as the rule it was written for, with a
single exception: when the last word is `first` or `second` and the name behind it begins with
`realm's`, word and name together are the keyword of a realm, and what is left for the name is
shorter than the name was.
-/

namespace LootRules

/-- Words in front of others are written with a space behind each. -/
theorem Text.unwords_append_cons (ws : List Text) (v : Text) (vs : List Text) :
    Text.unwords (ws ++ v :: vs) = ws.flatMap (· ++ [' ']) ++ Text.unwords (v :: vs) := by
  induction ws with
  | nil => rfl
  | cons w ws ih =>
    rw [List.flatMap_cons, List.append_assoc, ← ih]
    cases ws <;> simp [unwords]

/-- Words begin with the first. -/
theorem Text.exists_unwords_cons_eq (w : Text) (ws : List Text) :
    ∃ rest, Text.unwords (w :: ws) = w ++ rest := by
  cases ws with
  | nil => exact ⟨[], (List.append_nil w).symm⟩
  | cons v ws => exact ⟨_, rfl⟩

namespace Wording

/-- Phrases in front of other words are written with a space behind each. -/
theorem unwords_append_cons (ws : List Wording) (v : Text) (vs : List Text) :
    Text.unwords (ws.map (·.text) ++ v :: vs) = spaced ws ++ Text.unwords (v :: vs) := by
  rw [Text.unwords_append_cons, List.flatMap_map, spaced]

/-- Phrases with a colon behind the last, or with nothing, are read one by one. -/
theorem readPhrases_unwords {ws : List Wording} {s : Text} (h : ∀ c ∈ s.head?, c = ':') :
    readPhrases (Text.unwords (ws.map (·.text)) ++ s) = (ws.map (·.phrase), s) := by
  have stop : readPhrase? s = none := readPhrase?_eq_none_of_startsText (startsText_of_colon h)
  rcases List.eq_nil_or_concat ws with rfl | ⟨ws, w, rfl⟩
  · exact readPhrases_of_none stop
  · have read : readPhrase? (w.text ++ s) = some (w.phrase, s) := by
      rw [w.readPhrase?_text (fun c hc => .inr (h c hc)), skipSpace_of_colon h]
      rintro - ⟨rest, rfl⟩
      exact absurd (h ' ' rfl) (by decide)
    have last : Text.unwords ((ws ++ [w]).map (·.text)) = spaced ws ++ w.text := by
      rw [List.map_append]
      exact unwords_append_cons ws w.text []
    rw [List.concat_eq_append, last, List.append_assoc,
      readPhrases_spaced fun _ _ _ => w.not_realmWord_prefix s, readPhrases_of_some read,
      readPhrases_of_none stop, List.map_append]
    rfl

end Wording

namespace Rule

/-- The last word of the rule and its name are written like the keyword of a realm. -/
structure MergesIntoRealm (r : Rule) : Prop where
  artifact : .artifact ∉ r.flags
  noun : r.flags.noun? = none
  ordinal : ∃ k, r.keywords.getLast? = some k ∧ (k.flag = .first ∨ k.flag = .second)
  name : Keyword.realmWord <+: r.name

/-- The line of a rule without its marks and its inscription. -/
def body (r : Rule) : Text := Text.unwords (r.keywords.map r.word) ++ r.renderName

/-- The numbers of a rule that has a line have at most two digits. -/
theorem Writable.number_le {r : Rule} (h : r.Writable) (f : Flag) : r.number f ≤ 99 := by
  rw [number]
  split
  · exact h.dice_le
  · exact h.bonus_le

/-- Words in front of others are written with a space behind each. -/
theorem unwords_append_cons (r : Rule) (ks : List Keyword) (j : Keyword) (js : List Keyword) :
    Text.unwords ((ks ++ j :: js).map r.word) =
      r.spaced ks ++ Text.unwords ((j :: js).map r.word) := by
  rw [List.map_append, List.map_cons, Text.unwords_append_cons, spaced, List.flatMap_map]

/-- A rule with a noun phrase is written with its name behind a colon. -/
theorem body_of_nounPhrase {r : Rule} (h : r.nounPhrase ≠ []) :
    r.body = r.spaced r.adjectives ++
      (Text.unwords (r.nounPhrase.map r.word) ++ colonName r.name) := by
  have noun : r.hasNounPhrase = true := by
    rw [← Bool.not_eq_false, hasNounPhrase_eq_false_iff]
    exact h
  have name : r.renderName = colonName r.name := by rw [renderName, noun, if_pos rfl, colonName]
  rw [body, name, keywords_eq_append, ← List.append_assoc]
  cases phrase : r.nounPhrase with
  | nil => exact absurd phrase h
  | cons j js => rw [unwords_append_cons]

/-- The last word has no space behind it. -/
theorem unwords_concat (r : Rule) (ks : List Keyword) (k : Keyword) :
    Text.unwords ((ks ++ [k]).map r.word) = r.spaced ks ++ r.word k :=
  r.unwords_append_cons ks k []

/-- A space behind the last word is a space behind each. -/
theorem unwords_append_space {r : Rule} {ks : List Keyword} (h : ks ≠ []) (rest : Text) :
    Text.unwords (ks.map r.word) ++ ' ' :: rest = r.spaced ks ++ rest := by
  rcases List.eq_nil_or_concat ks with empty | ⟨ks, k, rfl⟩
  · exact absurd empty h
  · rw [List.concat_eq_append, unwords_concat]
    simp [spaced]

/-- Without a noun phrase, a name that could be taken for something else stands behind a colon, and
any other behind a space. -/
theorem body_of_nil {r : Rule} (h : r.nounPhrase = []) :
    r.body = if r.name.isEmpty || needsColon r.name
      then Text.unwords (r.adjectives.map r.word) ++ ':' :: r.name
      else r.spaced r.adjectives ++ r.name := by
  have keywords : r.keywords = r.adjectives := by rw [keywords_eq_append, h, List.append_nil]
  rw [body, renderName, hasNounPhrase_eq_false_iff.mpr h, if_neg Bool.false_ne_true, keywords]
  split
  · rfl
  · cases adjectives : r.adjectives with
    | nil => rfl
    | cons k ks => exact unwords_append_space (List.cons_ne_nil k ks) r.name

/-- Adjectives, each with a space behind it, are read as phrases. -/
theorem readPhrases_adjectives {r : Rule} (h : r.Writable) {rest : Text}
    (noPhrase : readPhrase? rest = none)
    (free : ∀ k ∈ r.adjectives.getLast?, k.opensRealm → ¬ Keyword.realmWord <+: rest) :
    readPhrases (r.spaced r.adjectives ++ rest) = (r.adjectives.map r.phrase, rest) := by
  rw [readPhrases_spaced (fun k hk => mem_adjectives_of_mem hk) h.number_le free,
    readPhrases_of_none noPhrase, List.append_nil]

/-- Adjectives with a colon behind the last are read as phrases. -/
theorem readPhrases_colon {r : Rule} (h : r.Writable) (name : Text) :
    readPhrases (Text.unwords (r.adjectives.map r.word) ++ ':' :: name) =
      (r.adjectives.map r.phrase, ':' :: name) := by
  obtain ⟨ws, -, texts, phrases⟩ :=
    exists_wordings (fun k hk => mem_adjectives_of_mem hk) h.number_le
  rw [← texts, ← phrases]
  exact Wording.readPhrases_unwords fun c hc => (Option.some.inj hc).symm

/-- The noun phrase begins with the text of a keyword. -/
theorem exists_nounPhrase_eq {r : Rule} (nonempty : r.nounPhrase ≠ []) (rest : Text) :
    ∃ k ∈ r.nounPhrase, ∃ more,
      Text.unwords (r.nounPhrase.map r.word) ++ rest = k.text ++ more := by
  obtain ⟨k, ks, cons⟩ := List.exists_cons_of_ne_nil nonempty
  have mem : k ∈ r.nounPhrase := by
    rw [cons]
    exact List.mem_cons_self
  have word := word_of_mem_nounPhrase mem
  obtain ⟨more, joined⟩ := Text.exists_unwords_cons_eq k.text (ks.map r.word)
  rw [cons, List.map_cons, word, joined, List.append_assoc]
  exact ⟨k, List.mem_cons_self, more ++ rest, rfl⟩

/-- A rule without a noun phrase asks neither for an artifact nor for a noun. -/
theorem flags_of_nounPhrase_eq_nil {r : Rule} (h : r.nounPhrase = []) :
    .artifact ∉ r.flags ∧ r.flags.noun? = none := by
  have noNoun : ∀ k ∈ Keyword.table, k.isAdjective = false → k.flag ∉ r.flags := by
    intro k hk noun mem
    have written := mem_nounPhrase.mpr ⟨⟨hk, mem⟩, noun⟩
    rw [h] at written
    exact List.not_mem_nil written
  constructor
  · exact noNoun Keyword.artifact Keyword.artifact_mem_table rfl
  · refine List.find?_eq_none.mpr fun f hf mem => ?_
    obtain ⟨k, hk, rfl⟩ := Keyword.exists_mem_table f
    have isNoun : ∀ f ∈ Flag.nouns, f.isNoun := by decide
    refine noNoun k hk (Bool.eq_false_iff.mpr fun adjective => ?_) mem
    exact absurd (isNoun k.flag hf)
      (Bool.eq_false_iff.mp (Keyword.isNoun_flag_of_isAdjective hk adjective))

/-- A rule without a noun phrase whose last word can open the name of a realm merges with a name
that goes on so. -/
theorem mergesIntoRealm_of_last {r : Rule} {k : Keyword} (phrase : r.nounPhrase = [])
    (last : r.adjectives.getLast? = some k) (opens : k.opensRealm)
    (name : Keyword.realmWord <+: r.name) : r.MergesIntoRealm := by
  obtain ⟨artifact, noun⟩ := flags_of_nounPhrase_eq_nil phrase
  refine ⟨artifact, noun, ⟨k, ?_, ?_⟩, name⟩
  · rw [keywords_eq_append, phrase, List.append_nil, last]
  · simpa [Keyword.opensRealm] using opens

/-- A name that stands without a colon begins with no keyword, mark or colon, and is no line of
another kind. -/
theorem of_needsColon_eq_false {name : Text} (h : needsColon name = false) :
    Keyword.startsText name = false ∧ (∀ c ∈ name.head?, c ∉ separators) ∧
      isForeign name = false := by
  simp only [needsColon, Bool.or_eq_false_iff, Option.any_eq_false] at h
  obtain ⟨⟨starts, separators⟩, foreign⟩ := h
  exact ⟨starts, fun c hc => by simpa using separators c hc, foreign⟩

/-- The words and the name of a rule are read back: the words in front of the noun phrase as
phrases, and then the noun phrase with the name. -/
theorem read_body {r : Rule} (h : r.Writable) (free : ¬ r.MergesIntoRealm) :
    (readPhrases r.body).1 = r.adjectives.map r.phrase ∧
      readEnding (readPhrases r.body).2 = (r.nounPhrase.map (·.flag), r.name) := by
  by_cases phrase : r.nounPhrase = []
  · rw [body_of_nil phrase, phrase]
    split
    · rw [readPhrases_colon h]
      exact ⟨rfl, readEnding_colon r.name⟩
    · next bare =>
      rw [Bool.not_eq_true, Bool.or_eq_false_iff, List.isEmpty_eq_false_iff] at bare
      obtain ⟨starts, first, -⟩ := of_needsColon_eq_false bare.2
      have colon : r.name.head? ≠ some ':' := fun hc => first ':' hc (by decide)
      have stop := readPhrase?_eq_none_of_startsText starts
      rw [readPhrases_adjectives h stop fun k hk opens name =>
        free (mergesIntoRealm_of_last phrase hk opens name)]
      exact ⟨rfl, readEnding_name starts bare.1 colon⟩
  · obtain ⟨k, hk, rest, text⟩ := exists_nounPhrase_eq phrase (colonName r.name)
    obtain ⟨⟨mem, -⟩, noun⟩ := mem_nounPhrase.mp hk
    have read : readPhrases (r.spaced r.adjectives ++ (k.text ++ rest)) =
        (r.adjectives.map r.phrase, k.text ++ rest) :=
      readPhrases_adjectives h (readPhrase?_of_isAdjective_eq_false mem noun rest)
        fun _ _ _ => Keyword.not_realmWord_prefix mem rest
    rw [body_of_nounPhrase phrase, text, read]
    exact ⟨rfl, text ▸ readEnding_nounPhrase h phrase⟩

/-- The flags written in a line are those of the rule. -/
theorem mem_flags_iff {r : Rule} {f : Flag} : f ∈ r.flags ↔ f ∈ r.keywords.map (·.flag) := by
  constructor
  · intro mem
    obtain ⟨k, hk, rfl⟩ := Keyword.exists_mem_table f
    exact List.mem_map_of_mem (List.mem_filter.mpr ⟨hk, decide_eq_true mem⟩)
  · intro named
    obtain ⟨k, hk, rfl⟩ := List.mem_map.mp named
    exact of_decide_eq_true (List.mem_filter.mp hk).2

/-- The phrase of a threshold has the number of the rule. -/
theorem number_phrase {r : Rule} {k : Keyword} (hk : k ∈ Keyword.table)
    (threshold : k.flag = .moreDice ∨ k.flag = .moreBonus) :
    (r.phrase k).number = r.number k.flag := by
  obtain ⟨adjective, slot⟩ := (Keyword.regular_of_mem hk).threshold threshold
  rw [phrase]
  cases hs : k.slot with
  | threshold suffix => rfl
  | adjective => exact absurd hs slot
  | preNoun | noun =>
    rw [Keyword.isAdjective, hs] at adjective
    contradiction

/-- The thresholds of a rule are among its adjectives. -/
theorem exists_mem_adjectives {r : Rule} {f : Flag} (hf : f = .moreDice ∨ f = .moreBonus)
    (mem : f ∈ r.flags) : ∃ k ∈ r.adjectives, k.flag = f := by
  obtain ⟨k, hk, rfl⟩ := Keyword.exists_mem_table f
  have written : k ∈ r.keywords := List.mem_filter.mpr ⟨hk, decide_eq_true mem⟩
  have adjective := ((Keyword.regular_of_mem hk).threshold hf).1
  exact ⟨k, List.mem_filter.mpr ⟨written, adjective⟩, rfl⟩

/-- The number read back for a threshold is that of the rule, if the rule has the threshold. -/
theorem lastNumber_phrases {r : Rule} {f : Flag} (hf : f = .moreDice ∨ f = .moreBonus) :
    lastNumber f (r.adjectives.map r.phrase) = if f ∈ r.flags then r.number f else 0 := by
  split
  · next mem =>
    obtain ⟨k, hk, flag⟩ := exists_mem_adjectives hf mem
    have nonempty : (r.adjectives.map r.phrase).filter (·.flag = f) ≠ [] := by
      refine List.ne_nil_of_mem (List.mem_filter.mpr ⟨List.mem_map_of_mem hk, ?_⟩)
      rw [flag_phrase, flag, decide_eq_true rfl]
    rw [lastNumber, List.getLast?_eq_some_getLast nonempty, Option.map_some, Option.getD_some]
    obtain ⟨read, same⟩ := List.mem_filter.mp (List.getLast_mem nonempty)
    obtain ⟨j, hj, phrase⟩ := List.mem_map.mp read
    rw [← phrase, flag_phrase, decide_eq_true_iff] at same
    rw [← phrase, ← same]
    exact number_phrase (Keyword.mem_adjectives.mp (mem_adjectives_of_mem hj)).1 (same ▸ hf)
  · next mem =>
    refine lastNumber_eq_zero fun named => mem (mem_flags_iff.mpr ?_)
    obtain ⟨p, hp, flag⟩ := List.mem_map.mp named
    obtain ⟨k, hk, rfl⟩ := List.mem_map.mp hp
    rw [flag_phrase] at flag
    exact List.mem_map.mpr ⟨k, (List.mem_filter.mp hk).1, flag⟩

/-- A rule that has a line is read back from its words and its name. -/
theorem ofBody_body {r : Rule} (h : r.Writable) (free : ¬ r.MergesIntoRealm) :
    ofBody r.action r.inscription r.body = r := by
  obtain ⟨phrases, ending⟩ := read_body h free
  have flags : (ofBody r.action r.inscription r.body).flags = r.flags := by
    refine FlagSet.ext fun f => Bool.eq_iff_iff.mpr ?_
    change f ∈ (ofBody r.action r.inscription r.body).flags ↔ f ∈ r.flags
    have named : (·.flag) ∘ r.phrase = Keyword.flag := funext r.flag_phrase
    rw [mem_flags_ofBody, phrases, ending, mem_flags_iff, keywords_eq_append, List.map_append,
      List.mem_append, List.map_map, named]
  have dice : lastNumber .moreDice (readPhrases r.body).1 = r.dice := by
    rw [phrases, lastNumber_phrases (.inl rfl)]
    split
    · rfl
    · next absent => exact (h.dice_eq_zero absent).symm
  have bonus : lastNumber .moreBonus (readPhrases r.body).1 = r.bonus := by
    rw [phrases, lastNumber_phrases (.inr rfl)]
    split
    · rfl
    · next absent => exact (h.bonus_eq_zero absent).symm
  have name : (readEnding (readPhrases r.body).2).2 = r.name := by rw [ending]
  calc ofBody r.action r.inscription r.body
      = { action := r.action, flags := (ofBody r.action r.inscription r.body).flags
          dice := lastNumber .moreDice (readPhrases r.body).1
          bonus := lastNumber .moreBonus (readPhrases r.body).1
          name := (readEnding (readPhrases r.body).2).2, inscription := r.inscription } := rfl
    _ = r := by rw [flags, dice, bonus, name]

/-- A rule that merges into a realm's keyword is written with its words and its name in one. -/
theorem body_of_mergesIntoRealm {r : Rule} (merges : r.MergesIntoRealm) :
    ∃ ks k rest, (∀ j ∈ ks, j ∈ Keyword.adjectives) ∧ k ∈ Keyword.table ∧ k.opensRealm ∧
      r.name = Keyword.realmWord ++ rest ∧
      r.body = r.spaced ks ++ (k.text ++ Keyword.realmEnding ++ rest) := by
  obtain ⟨k, last, ordinal⟩ := merges.ordinal
  obtain ⟨rest, name⟩ := merges.name
  have mem : k ∈ Keyword.table := (List.mem_filter.mp (List.mem_of_getLast? last)).1
  have opens : k.opensRealm := by simpa [Keyword.opensRealm] using ordinal
  have slot := ((Keyword.regular_of_mem mem).opens opens).1
  have phrase : r.nounPhrase = [] := by
    refine Classical.byContradiction fun nonempty => ?_
    rw [keywords_eq_append, List.getLast?_append, List.getLast?_eq_some_getLast nonempty,
      Option.some_or, Option.some.injEq] at last
    have noun := (mem_nounPhrase.mp (last ▸ List.getLast_mem nonempty)).2
    rw [Keyword.isAdjective, slot] at noun
    contradiction
  rw [keywords_eq_append, phrase, List.append_nil, List.getLast?_eq_some_iff] at last
  obtain ⟨ks, adjectives⟩ := last
  have bare : (r.name.isEmpty || needsColon r.name) = false := by
    have starts : Keyword.startsText r.name = false := by
      rw [← name, Keyword.startsText, List.any_eq_false]
      intro j hj begun
      obtain ⟨more, begun⟩ := Keyword.begins_iff.mp begun
      exact Keyword.not_realmWord_prefix hj more (begun ▸ List.prefix_append _ rest)
    rw [needsColon, starts, ← name]
    rfl
  refine ⟨ks, k, rest, fun j hj => ?_, mem, opens, name.symm, ?_⟩
  · exact mem_adjectives_of_mem (adjectives ▸ List.mem_append_left [k] hj)
  · have word : r.word k = k.text := word_of_slot fun suffix => by rw [slot]; simp
    have ending : Keyword.realmEnding = ' ' :: Keyword.realmWord := rfl
    rw [body_of_nil phrase, bare, if_neg Bool.false_ne_true, adjectives, ← name, ending, spaced,
      List.flatMap_append, List.flatMap_singleton, word, spaced]
    simp only [List.append_assoc, List.cons_append, List.nil_append]

/-- A rule that merges into a realm's keyword is read back with a shorter name. -/
theorem length_name_ofBody_lt {r : Rule} (h : r.Writable) (merges : r.MergesIntoRealm) :
    (ofBody r.action r.inscription r.body).name.length < r.name.length := by
  obtain ⟨ks, k, rest, adjectives, mem, opens, name, body⟩ := body_of_mergesIntoRealm merges
  obtain ⟨-, j, listed, slot, text, closed⟩ := (Keyword.regular_of_mem mem).opens opens
  have hj : j ∈ Keyword.adjectives := by
    refine Keyword.mem_adjectives.mpr ⟨listed, ?_⟩
    rw [Keyword.isAdjective, slot]
  have read : readPhrase? (j.text ++ rest) = some ({ flag := j.flag }, Keyword.skipSpace rest) := by
    refine readPhrase?_append hj (fun opens => ?_) ?_
    · rw [closed] at opens
      contradiction
    · rw [Keyword.readPhrase?, slot, Keyword.behind?_append, Option.bind_some]
  have whole : (readPhrases r.body).2 = (readPhrases (Keyword.skipSpace rest)).2 := by
    have free : ∀ i ∈ ks.getLast?, i.opensRealm → ¬ Keyword.realmWord <+: j.text ++ rest :=
      fun _ _ _ => Keyword.not_realmWord_prefix listed rest
    rw [body, ← text, readPhrases_spaced adjectives h.number_le free, readPhrases_of_some read]
  have ends : (readEnding (readPhrases r.body).2).2 <:+ rest := by
    rw [whole]
    exact ((readEnding_sound _).2.trans (readPhrases_sound _).2).trans
      (Keyword.skipSpace_suffix rest)
  calc (readEnding (readPhrases r.body).2).2.length
      ≤ rest.length := ends.length_le
    _ < r.name.length := by
      rw [name, List.length_append]
      exact Nat.lt_add_of_pos_left (by decide)

end Rule

end LootRules
