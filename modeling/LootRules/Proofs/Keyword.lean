import LootRules.Keyword

/-!
# Overlapping keywords

A keyword is recognised by its text alone, so what matters is which texts begin one another.
Only two pairs do: `first` and `second` are the beginnings of `first realm's` and
`second realm's`. Hence a keyword behind which any text stands is told from all others,
unless it is one of these ordinals and that text goes on with the name of a realm.

The table of keywords is used through the facts stated here and through the order in which
the readers try them. What is asked of every keyword is gathered in `Regular`, and settled by
running over the table once.
-/

namespace LootRules.Keyword

/-- Whether the keyword is also the beginning of the keyword of a realm. -/
def opensRealm (k : Keyword) : Bool := k.flag = .first || k.flag = .second

/-- What makes the keyword of a realm out of an ordinal. -/
def realmEnding : Text := " realm's"

/-- What the keyword of a realm has behind the space after its ordinal. -/
def realmWord : Text := "realm's"

/-- What stands behind the number of a threshold. -/
def suffix (k : Keyword) : Text :=
  match k.slot with
  | .threshold suffix => suffix
  | _ => []

/-- What the readers and the writer of rule lines rely on for a keyword of the table.

It begins with a small letter or an asterisk, and holds no capital and no mark of an
inscription. Its slot fits its flag. It is no beginning of another keyword, unless it is an
ordinal and the other is that of its realm, which there is then. -/
structure Regular (k : Keyword) : Prop where
  head : k.text.head?.any fun c => c.isLower || c = '*'
  plain : (k.text ++ k.suffix).all fun c => c ≠ '#' && !c.isUpper
  spaced : k.suffix.head?.all (· = ' ')
  noun : k.slot = .noun ↔ k.flag.isNoun
  threshold : k.flag = .moreDice ∨ k.flag = .moreBonus → k.isAdjective ∧ k.slot ≠ .adjective
  opens : k.opensRealm → k.slot = .adjective ∧
    ∃ j ∈ table, j.slot = .adjective ∧ j.text = k.text ++ realmEnding ∧ j.opensRealm = false
  realm : ¬ realmWord <+: k.text ∧ ¬ k.text <+: realmWord
  begins : ∀ j ∈ table, k.text <+: j.text →
    j = k ∨ k.opensRealm ∧ j.isAdjective ∧ j.text = k.text ++ realmEnding

instance (k : Keyword) : Decidable k.Regular :=
  decidable_of_iff
    ((k.text.head?.any fun c => c.isLower || c = '*') ∧
      ((k.text ++ k.suffix).all fun c => c ≠ '#' && !c.isUpper) ∧
      k.suffix.head?.all (· = ' ') ∧ (k.slot = .noun ↔ k.flag.isNoun) ∧
      (k.flag = .moreDice ∨ k.flag = .moreBonus → k.isAdjective ∧ k.slot ≠ .adjective) ∧
      (k.opensRealm → k.slot = .adjective ∧ ∃ j ∈ table,
        j.slot = .adjective ∧ j.text = k.text ++ realmEnding ∧ j.opensRealm = false) ∧
      (¬ realmWord <+: k.text ∧ ¬ k.text <+: realmWord) ∧
      ∀ j ∈ table, k.text <+: j.text →
        j = k ∨ k.opensRealm ∧ j.isAdjective ∧ j.text = k.text ++ realmEnding)
    ⟨fun ⟨head, plain, spaced, noun, threshold, opens, realm, begins⟩ =>
      { head, plain, spaced, noun, threshold, opens, realm, begins },
     fun h => ⟨h.head, h.plain, h.spaced, h.noun, h.threshold, h.opens, h.realm, h.begins⟩⟩

/-- All keywords of the table are regular. -/
theorem regular_of_mem {k : Keyword} (h : k ∈ table) : k.Regular := by
  have all : ∀ k ∈ table, k.Regular := by decide +kernel
  exact all k h

/-- The text without one leading space. -/
def skipSpace (s : Text) : Text := (" ".toList.isPrefixOf? s).getD s

/-- One leading space is skipped. -/
theorem skipSpace_cons_space (s : Text) : skipSpace (' ' :: s) = s := by
  have h : " ".toList.isPrefixOf? (' ' :: s) = some s := Text.isPrefixOf?_eq_some_iff.mpr rfl
  rw [skipSpace, h, Option.getD_some]

/-- Without a leading space nothing is skipped. -/
theorem skipSpace_of_head?_ne {s : Text} (h : s.head? ≠ some ' ') : skipSpace s = s := by
  cases hs : " ".toList.isPrefixOf? s with
  | none => rw [skipSpace, hs, Option.getD_none]
  | some rest =>
    rw [Text.isPrefixOf?_eq_some_iff] at hs
    exact absurd (by rw [hs]; rfl) h

/-- Skipping a space leaves the end of the text. -/
theorem skipSpace_suffix (s : Text) : skipSpace s <:+ s := by
  by_cases h : s.head? = some ' '
  · obtain ⟨rest, rfl⟩ := List.head?_eq_some_iff.mp h
    rw [skipSpace_cons_space]
    exact List.suffix_cons ' ' rest
  · exact (skipSpace_of_head?_ne h).symm ▸ List.suffix_refl _

/-- Behind a keyword stands the rest of the text, less one space. -/
theorem behind?_append (key rest : Text) : behind? key (key ++ rest) = some (skipSpace rest) := by
  have h : key.isPrefixOf? (key ++ rest) = some rest := Text.isPrefixOf?_eq_some_iff.mpr rfl
  rw [behind?, h]
  rfl

/-- A text has something behind a keyword just when it begins with the keyword. -/
theorem behind?_eq_some_iff {key s t : Text} :
    behind? key s = some t ↔ ∃ rest, s = key ++ rest ∧ t = skipSpace rest := by
  simp only [behind?, Option.map_eq_some_iff, Text.isPrefixOf?_eq_some_iff]
  constructor
  · rintro ⟨rest, rfl, rfl⟩
    exact ⟨rest, rfl, rfl⟩
  · rintro ⟨rest, rfl, rfl⟩
    exact ⟨rest, rfl, rfl⟩

/-- A text that does not begin with a keyword has nothing behind it. -/
theorem behind?_eq_none_iff {key s : Text} : behind? key s = none ↔ ¬ key <+: s := by
  rw [Option.eq_none_iff_forall_ne_some]
  constructor
  · rintro nothing ⟨rest, rfl⟩
    exact nothing _ (behind?_append key rest)
  · intro not t h
    obtain ⟨rest, rfl, -⟩ := behind?_eq_some_iff.mp h
    exact not (List.prefix_append key rest)

/-- A text begins with a keyword when the keyword's text is a prefix of it. -/
theorem begins_iff {k : Keyword} {s : Text} : k.begins s = true ↔ k.text <+: s :=
  List.isPrefixOf_iff_prefix

/-- Sorting by length puts a keyword in and loses none. -/
theorem perm_insertByLength (k : Keyword) (ks : List Keyword) :
    (insertByLength k ks).Perm (k :: ks) := by
  induction ks with
  | nil => exact .refl _
  | cons j ks ih =>
    rw [insertByLength]
    split
    · exact (ih.cons j).trans (.swap k j ks)
    · exact .refl _

/-- Sorting by length keeps the keywords. -/
theorem perm_byLength (ks : List Keyword) : (byLength ks).Perm ks := by
  induction ks with
  | nil => exact .refl _
  | cons k ks ih => exact (perm_insertByLength k (byLength ks)).trans (ih.cons k)

/-- A keyword is put in behind the longer ones. -/
theorem pairwise_insertByLength (k : Keyword) {ks : List Keyword}
    (h : ks.Pairwise fun i j => j.text.length ≤ i.text.length) :
    (insertByLength k ks).Pairwise fun i j => j.text.length ≤ i.text.length := by
  induction ks with
  | nil => exact List.pairwise_singleton _ k
  | cons j ks ih =>
    obtain ⟨first, rest⟩ := List.pairwise_cons.mp h
    rw [insertByLength]
    split
    · next longer =>
      refine List.pairwise_cons.mpr ⟨fun i hi => ?_, ih rest⟩
      rcases List.mem_cons.mp ((perm_insertByLength k ks).mem_iff.mp hi) with rfl | mem
      · exact Nat.le_of_lt longer
      · exact first i mem
    · next notLonger =>
      have shorter := Nat.le_of_not_lt notLonger
      refine List.pairwise_cons.mpr ⟨fun i hi => ?_, h⟩
      rcases List.mem_cons.mp hi with rfl | mem
      · exact shorter
      · exact Nat.le_trans (first i mem) shorter

/-- Sorted by length, longer keywords come first. -/
theorem pairwise_byLength (ks : List Keyword) :
    (byLength ks).Pairwise fun i j => j.text.length ≤ i.text.length := by
  induction ks with
  | nil => exact List.Pairwise.nil
  | cons k ks ih => exact pairwise_insertByLength k ih

/-- The first part of a line is read by the adjectives and thresholds of the table. -/
theorem mem_adjectives {k : Keyword} : k ∈ adjectives ↔ k ∈ table ∧ k.isAdjective := by
  rw [adjectives, (perm_byLength _).mem_iff, List.mem_filter]

/-- The noun is read by the nouns of the table. -/
theorem mem_nouns {k : Keyword} : k ∈ nouns ↔ k ∈ table ∧ k.slot = .noun := by
  rw [nouns, (perm_byLength _).mem_iff, List.mem_filter, decide_eq_true_iff]

/-- No two keywords have the same flag. -/
theorem pairwise_flag : table.Pairwise fun j k => j.flag ≠ k.flag := by
  decide +kernel

/-- Longer adjectives are tried first, and none is tried twice. -/
theorem pairwise_adjectives :
    adjectives.Pairwise fun j k => k.text.length ≤ j.text.length ∧ j ≠ k := by
  have distinct : table.Nodup := pairwise_flag.imp fun differ same => differ (congrArg flag same)
  have once : adjectives.Nodup := (perm_byLength _).nodup_iff.mpr (distinct.filter _)
  exact (pairwise_byLength _).and once

/-- No flag is without a keyword. -/
theorem exists_mem_table (f : Flag) : ∃ k ∈ table, k.flag = f := by
  have all : ∀ f ∈ Flag.flags, ∃ k ∈ table, k.flag = f := by decide +kernel
  exact all f (Flag.mem_flags f)

/-- Which keywords a text can begin with that begins with `k`: besides `k` itself the ordinal in
a realm's keyword, and the keyword of a realm that the text behind an ordinal completes. -/
theorem cases_of_begins_append {j k : Keyword} (hj : j ∈ table) (hk : k ∈ table) {rest : Text}
    (h : j.begins (k.text ++ rest)) :
    j = k ∨ (j.opensRealm ∧ k.isAdjective ∧ k.text = j.text ++ realmEnding) ∨
      k.opensRealm ∧ realmEnding <+: rest := by
  have both := List.prefix_or_prefix_of_prefix (begins_iff.mp h) (List.prefix_append k.text rest)
  cases both with
  | inl shorter =>
    cases (regular_of_mem hj).begins k hk shorter with
    | inl same => exact .inl same.symm
    | inr opens => exact .inr (.inl opens)
  | inr longer =>
    cases (regular_of_mem hk).begins j hj longer with
    | inl same => exact .inl same
    | inr opens =>
      have completed : k.text ++ realmEnding <+: k.text ++ rest := opens.2.2 ▸ begins_iff.mp h
      exact .inr (.inr ⟨opens.1, (List.prefix_append_right_inj k.text).mp completed⟩)

/-- Behind a keyword of the noun phrase no other keyword is recognised. -/
theorem eq_of_begins_append {j k : Keyword} (hj : j ∈ table) (hk : k ∈ table)
    (noun : k.isAdjective = false) {rest : Text} (h : j.begins (k.text ++ rest)) : j = k := by
  rcases cases_of_begins_append hj hk h with same | ⟨-, adjective, -⟩ | ⟨opens, -⟩
  · exact same
  · rw [noun] at adjective
    contradiction
  · rw [isAdjective, ((regular_of_mem hk).opens opens).1] at noun
    contradiction

/-- A text that begins with a noun has that noun first. -/
theorem nounAt?_append {k : Keyword} (hk : k ∈ nouns) (rest : Text) :
    nounAt? (k.text ++ rest) = some k := by
  obtain ⟨mem, noun⟩ := mem_nouns.mp hk
  have found : (nounAt? (k.text ++ rest)).isSome := by
    refine List.find?_isSome.mpr ⟨k, hk, ?_⟩
    exact begins_iff.mpr (List.prefix_append k.text rest)
  obtain ⟨j, hj⟩ := Option.isSome_iff_exists.mp found
  have begun : j.begins (k.text ++ rest) := (List.find?_eq_some_iff_append.mp hj).1
  have same : j = k := by
    refine eq_of_begins_append (mem_nouns.mp (List.mem_of_find?_eq_some hj)).1 mem ?_ begun
    rw [isAdjective, noun]
  rw [hj, same]

/-- A text that begins with no keyword is left alone by the reader of one keyword. -/
theorem behind?_eq_none_of_startsText {k : Keyword} (hk : k ∈ table) {s : Text}
    (h : startsText s = false) : behind? k.text s = none := by
  refine behind?_eq_none_iff.mpr fun begun => ?_
  rw [startsText, List.any_eq_false] at h
  exact h k hk (begins_iff.mpr begun)

/-- A text that begins with no keyword has no noun. -/
theorem nounAt?_eq_none_of_startsText {s : Text} (h : startsText s = false) :
    nounAt? s = none := by
  rw [startsText, List.any_eq_false] at h
  exact List.find?_eq_none.mpr fun k hk => h k (mem_nouns.mp hk).1

/-- Keywords begin with a small letter or an asterisk. -/
theorem head_text {k : Keyword} (hk : k ∈ table) :
    ∃ c, k.text.head? = some c ∧ (c.isLower ∨ c = '*') := by
  obtain ⟨c, hc, lower⟩ := (Option.any_eq_true _ _).mp (regular_of_mem hk).head
  exact ⟨c, hc, by simpa using lower⟩

/-- A text that begins with neither a small letter nor an asterisk begins with no keyword. -/
theorem startsText_eq_false {s : Text} (h : ∀ c ∈ s.head?, ¬ c.isLower ∧ c ≠ '*') :
    startsText s = false := by
  rw [startsText, List.any_eq_false]
  intro k hk begun
  obtain ⟨c, hc, lower⟩ := head_text hk
  obtain ⟨rest, rfl⟩ := begins_iff.mp begun
  have first := h c (by rw [Option.mem_def, List.head?_append, hc]; rfl)
  exact lower.elim first.1 first.2

end LootRules.Keyword
