import LootRules.Proofs.Rule.Reading
import LootRules.Rule.Render

/-!
# Words read back as phrases

A word of a rule line is read as the phrase it was written for, whatever stands behind it, as
long as an ordinal is not followed by the rest of a realm's keyword. So a sequence of words
with single spaces is read one word at a time, and the reader stops in front of a text that
begins with no keyword.
-/

namespace LootRules

/-- What separates a word from the text behind it. -/
def FollowsWord (s : Text) : Prop := ∀ c ∈ s.head?, c = ' ' ∨ c = ':'

/-- The phrase that a keyword is written for. -/
def Rule.phrase (r : Rule) (k : Keyword) : Phrase :=
  match k.slot with
  | .threshold _ => { flag := k.flag, number := r.number k.flag }
  | _ => { flag := k.flag }

/-- A phrase has the flag of its keyword. -/
theorem Rule.flag_phrase (r : Rule) (k : Keyword) : (r.phrase k).flag = k.flag := by
  rw [phrase]
  split <;> rfl

/-- A word begins with the text of its keyword, and is that text unless a number follows. -/
theorem Rule.exists_word_eq (r : Rule) (k : Keyword) :
    ∃ rest, r.word k = k.text ++ rest ∧ (rest = [] ∨ ∃ suffix, k.slot = .threshold suffix) := by
  rw [word]
  cases slot : k.slot with
  | threshold suffix =>
    exact ⟨' ' :: Text.decimal (r.number k.flag) ++ suffix, List.append_assoc _ _ _,
      .inr ⟨suffix, rfl⟩⟩
  | adjective | preNoun | noun => exact ⟨[], (List.append_nil _).symm, .inl rfl⟩

/-- A keyword that is no threshold is written as its text. -/
theorem Rule.word_of_slot {r : Rule} {k : Keyword} (h : ∀ suffix, k.slot ≠ .threshold suffix) :
    r.word k = k.text := by
  obtain ⟨rest, word, rfl | ⟨suffix, slot⟩⟩ := r.exists_word_eq k
  · rw [word, List.append_nil]
  · exact absurd slot (h suffix)

/-- A phrase as a line can have it: an adjective, or a threshold with a number of one or two digits
and its suffix. -/
inductive Wording where
  | adjective (k : Keyword) (mem : k ∈ Keyword.table) (slot : k.slot = .adjective)
  | threshold (k : Keyword) (suffix digits : Text) (mem : k ∈ Keyword.table)
      (slot : k.slot = .threshold suffix) (number : ∀ c ∈ digits, c.isDigit)
      (short : digits.length = 1 ∨ digits.length = 2)

namespace Wording

/-- The keyword of a phrase. -/
def keyword : Wording → Keyword
  | adjective k .. => k
  | threshold k .. => k

/-- The number given in a phrase; an adjective has none, which counts as zero. -/
def number : Wording → Nat
  | adjective .. => 0
  | threshold _ _ digits .. => Text.digitsValue digits

/-- What stands in the line. -/
def text : Wording → Text
  | adjective k .. => k.text
  | threshold k suffix digits .. => k.text ++ ' ' :: digits ++ suffix

/-- What is read for it. -/
def phrase (w : Wording) : Phrase := { flag := w.keyword.flag, number := w.number }

/-- Phrases begin with the keywords of the first part of a line. -/
theorem keyword_mem (w : Wording) : w.keyword ∈ Keyword.adjectives := by
  refine Keyword.mem_adjectives.mpr ?_
  cases w with
  | adjective k mem slot => exact ⟨mem, by simp only [keyword, Keyword.isAdjective, slot]⟩
  | threshold k suffix digits mem slot =>
    exact ⟨mem, by simp only [keyword, Keyword.isAdjective, slot]⟩

/-- A phrase begins with the text of its keyword, and is that text unless a number follows. -/
theorem exists_text_eq (w : Wording) :
    ∃ rest, w.text = w.keyword.text ++ rest ∧
      (rest = [] ∨ ∃ suffix, w.keyword.slot = .threshold suffix) := by
  cases w with
  | adjective k => exact ⟨[], (List.append_nil _).symm, .inl rfl⟩
  | threshold k suffix digits mem slot =>
    exact ⟨' ' :: digits ++ suffix, List.append_assoc _ _ _, .inr ⟨suffix, slot⟩⟩

end Wording

/-- The keywords of a rule in the first part of its line are written as phrases. -/
theorem Rule.exists_wording {r : Rule} {k : Keyword} (hk : k ∈ Keyword.adjectives)
    (small : r.number k.flag ≤ 99) :
    ∃ w : Wording, w.keyword = k ∧ w.text = r.word k ∧ w.phrase = r.phrase k := by
  obtain ⟨mem, adjective⟩ := Keyword.mem_adjectives.mp hk
  rw [word, phrase]
  cases slot : k.slot with
  | adjective => exact ⟨.adjective k mem slot, rfl, rfl, rfl⟩
  | threshold suffix =>
    have digits : ∀ c ∈ Text.decimal (r.number k.flag), c.isDigit :=
      fun _ hc => Text.isDigit_of_mem_decimal hc
    refine ⟨.threshold k suffix _ mem slot digits (Text.length_decimal small), rfl, rfl, ?_⟩
    rw [Wording.phrase, Wording.number, Text.digitsValue_decimal]
    rfl
  | preNoun | noun =>
    rw [Keyword.isAdjective, slot] at adjective
    contradiction

/-- All of them together are phrases. -/
theorem Rule.exists_wordings {r : Rule} {ks : List Keyword}
    (hks : ∀ k ∈ ks, k ∈ Keyword.adjectives) (small : ∀ f, r.number f ≤ 99) :
    ∃ ws : List Wording, ws.map (·.keyword) = ks ∧ ws.map (·.text) = ks.map r.word ∧
      ws.map (·.phrase) = ks.map r.phrase := by
  induction ks with
  | nil => exact ⟨[], rfl, rfl, rfl⟩
  | cons k ks ih =>
    obtain ⟨w, keyword, text, phrase⟩ := exists_wording (hks k List.mem_cons_self) (small k.flag)
    obtain ⟨ws, keywords, texts, phrases⟩ := ih fun j hj => hks j (List.mem_cons_of_mem k hj)
    refine ⟨w :: ws, ?_, ?_, ?_⟩
    · rw [List.map_cons, keyword, keywords]
    · rw [List.map_cons, text, texts, List.map_cons]
    · rw [List.map_cons, phrase, phrases, List.map_cons]

/-- One or two digits are read as the number of a threshold, with its suffix. -/
theorem readThreshold?_append {digits suffix rest : Text} (number : ∀ c ∈ digits, c.isDigit)
    (short : digits.length = 1 ∨ digits.length = 2)
    (stop : ∀ c ∈ (suffix ++ rest).head?, c.isDigit = false) :
    readThreshold? suffix (digits ++ (suffix ++ rest)) =
      some (Text.digitsValue digits, Keyword.skipSpace rest) := by
  have noDigit : (suffix ++ rest).takeWhile Char.isDigit = [] ∧
      (suffix ++ rest).dropWhile Char.isDigit = suffix ++ rest := by
    cases h : suffix ++ rest with
    | nil => exact ⟨rfl, rfl⟩
    | cons c s =>
      have first := stop c (by rw [h]; rfl)
      rw [List.takeWhile_cons, List.dropWhile_cons, first]
      exact ⟨rfl, rfl⟩
  have noSpace : (digits ++ (suffix ++ rest)).dropWhile (· = ' ') =
      digits ++ (suffix ++ rest) := by
    cases digits with
    | nil => simp at short
    | cons c s =>
      have first : c ≠ ' ' := by
        rintro rfl
        exact absurd (number ' ' List.mem_cons_self) (by decide)
      rw [List.cons_append, List.dropWhile_cons, if_neg (by simpa using first)]
  simp only [readThreshold?, noSpace, List.takeWhile_append_of_pos number,
    List.dropWhile_append_of_pos number, noDigit.1, noDigit.2, List.append_nil,
    if_pos short, Keyword.behind?_append, Option.getD_some]

/-- The suffix of a threshold begins with a space. -/
theorem Keyword.head?_suffix {k : Keyword} (hk : k ∈ Keyword.table) {suffix : Text}
    (slot : k.slot = .threshold suffix) : suffix.head?.all (· = ' ') := by
  have spaced := (Keyword.regular_of_mem hk).spaced
  rw [Keyword.suffix, slot] at spaced
  exact spaced

/-- A phrase is read by its keyword. -/
theorem Wording.readPhrase?_keyword (w : Wording) {rest : Text} (follows : FollowsWord rest) :
    w.keyword.readPhrase? (w.text ++ rest) = some (w.phrase, Keyword.skipSpace rest) := by
  rw [Keyword.readPhrase?, phrase]
  cases w with
  | adjective k mem slot => simp only [keyword, text, number, slot, Keyword.behind?_append,
      Option.bind_some]
  | threshold k suffix digits mem slot number short =>
    have stop : ∀ c ∈ (suffix ++ rest).head?, c.isDigit = false := by
      intro c hc
      have spaced := Keyword.head?_suffix mem slot
      cases suffix with
      | nil => rcases follows c hc with rfl | rfl <;> rfl
      | cons d suffix =>
        rw [List.cons_append, List.head?_cons, Option.mem_some_iff] at hc
        have space : d = ' ' := by simpa using spaced
        rw [← hc, space]
        rfl
    have read := readThreshold?_append number short stop
    simp only [keyword, text, Wording.number, slot, List.append_assoc, Keyword.behind?_append,
      List.cons_append, Keyword.skipSpace_cons_space, Option.bind_some, read, Option.map_some]

/-- A text that begins with an adjective is read by that keyword, if it can read it and the text is
not that of a realm's keyword. -/
theorem readPhrase?_append {k : Keyword} (hk : k ∈ Keyword.adjectives) {rest : Text}
    (free : k.opensRealm → ¬ Keyword.realmEnding <+: rest) {result : Phrase × Text}
    (h : k.readPhrase? (k.text ++ rest) = some result) :
    readPhrase? (k.text ++ rest) = some result := by
  obtain ⟨before, after, split⟩ := List.append_of_mem hk
  have order := Keyword.pairwise_adjectives
  rw [split, List.pairwise_append] at order
  refine List.findSome?_eq_some_iff.mpr ⟨before, k, after, split, h, fun j hj => ?_⟩
  obtain ⟨longer, differ⟩ := order.2.2 j hj k List.mem_cons_self
  have mem : j ∈ Keyword.adjectives := split ▸ List.mem_append_left _ hj
  -- What is tried before `k` is no shorter, so it can only be the keyword of a realm.
  have silent : ¬ j.text <+: k.text ++ rest := by
    intro begun
    rcases Keyword.cases_of_begins_append (Keyword.mem_adjectives.mp mem).1
      (Keyword.mem_adjectives.mp hk).1 (Keyword.begins_iff.mpr begun) with
      same | ⟨-, -, shorter⟩ | ⟨opens, completed⟩
    · exact differ same
    · have lengths := congrArg List.length shorter
      have : Keyword.realmEnding.length = 8 := rfl
      rw [List.length_append] at lengths
      omega
    · exact free opens completed
  rw [Keyword.readPhrase?, Keyword.behind?_eq_none_iff.mpr silent, Option.bind_none]

/-- A phrase is read, unless it is an ordinal in a realm's keyword. -/
theorem Wording.readPhrase?_text (w : Wording) {rest : Text} (follows : FollowsWord rest)
    (free : w.keyword.opensRealm → ¬ Keyword.realmEnding <+: rest) :
    readPhrase? (w.text ++ rest) = some (w.phrase, Keyword.skipSpace rest) := by
  have mem := (Keyword.mem_adjectives.mp w.keyword_mem).1
  have read := w.readPhrase?_keyword follows
  obtain ⟨more, text, plain⟩ := w.exists_text_eq
  rw [text, List.append_assoc] at read ⊢
  refine readPhrase?_append w.keyword_mem (fun opens => ?_) read
  rcases plain with rfl | ⟨suffix, slot⟩
  · exact free opens
  · rw [((Keyword.regular_of_mem mem).opens opens).1] at slot
    contradiction

/-- A text that begins with no keyword of the first part of a line has no phrase. -/
theorem readPhrase?_eq_none {s : Text} (h : ∀ k ∈ Keyword.adjectives, ¬ k.begins s) :
    readPhrase? s = none := by
  refine List.findSome?_eq_none_iff.mpr fun k hk => ?_
  have silent : ¬ k.text <+: s := fun begun => h k hk (Keyword.begins_iff.mpr begun)
  rw [Keyword.readPhrase?, Keyword.behind?_eq_none_iff.mpr silent, Option.bind_none]

/-- A text that begins with no keyword at all has no phrase either. -/
theorem readPhrase?_eq_none_of_startsText {s : Text} (h : Keyword.startsText s = false) :
    readPhrase? s = none := by
  rw [Keyword.startsText, List.any_eq_false] at h
  exact readPhrase?_eq_none fun k hk => h k (Keyword.mem_adjectives.mp hk).1

/-- The phrases of a text that has none. -/
theorem readPhrases_of_none {s : Text} (h : readPhrase? s = none) : readPhrases s = ([], s) := by
  rw [readPhrases, h]

/-- The phrases of a text that has one. -/
theorem readPhrases_of_some {s rest : Text} {p : Phrase} (h : readPhrase? s = some (p, rest)) :
    readPhrases s = (p :: (readPhrases rest).1, (readPhrases rest).2) := by
  rw [readPhrases, h]

/-- No keyword begins as the rest of a realm's keyword does. -/
theorem Keyword.not_realmWord_prefix {k : Keyword} (hk : k ∈ Keyword.table) (rest : Text) :
    ¬ Keyword.realmWord <+: k.text ++ rest := by
  intro begun
  have apart := (Keyword.regular_of_mem hk).realm
  cases List.prefix_or_prefix_of_prefix begun (List.prefix_append k.text rest) with
  | inl shorter => exact apart.1 shorter
  | inr longer => exact apart.2 longer

/-- No phrase begins as the rest of a realm's keyword does. -/
theorem Wording.not_realmWord_prefix (w : Wording) (rest : Text) :
    ¬ Keyword.realmWord <+: w.text ++ rest := by
  obtain ⟨more, text, -⟩ := w.exists_text_eq
  rw [text, List.append_assoc]
  exact Keyword.not_realmWord_prefix (Keyword.mem_adjectives.mp w.keyword_mem).1 _

/-- Phrases, each with a space behind it. -/
def Wording.spaced (ws : List Wording) : Text := ws.flatMap fun w => w.text ++ [' ']

/-- Phrases, each with a space behind it, are read one by one, and the reader goes on behind
them. -/
theorem Wording.readPhrases_spaced {ws : List Wording} {rest : Text}
    (free : ∀ w ∈ ws.getLast?, w.keyword.opensRealm → ¬ Keyword.realmWord <+: rest) :
    readPhrases (spaced ws ++ rest) =
      (ws.map (·.phrase) ++ (readPhrases rest).1, (readPhrases rest).2) := by
  induction ws with
  | nil => rfl
  | cons w ws ih =>
    have whole : spaced (w :: ws) ++ rest = w.text ++ ' ' :: (spaced ws ++ rest) := by
      simp [spaced]
    have free' : w.keyword.opensRealm →
        ¬ Keyword.realmEnding <+: ' ' :: (spaced ws ++ rest) := by
      intro opens begun
      have begun : Keyword.realmWord <+: spaced ws ++ rest := (List.cons_prefix_cons.mp begun).2
      cases ws with
      | nil => exact free w rfl opens begun
      | cons v ws =>
        rw [spaced, List.flatMap_cons, List.append_assoc, List.append_assoc] at begun
        exact v.not_realmWord_prefix _ begun
    have read : readPhrase? (w.text ++ ' ' :: (spaced ws ++ rest)) =
        some (w.phrase, spaced ws ++ rest) := by
      have space : FollowsWord (' ' :: (spaced ws ++ rest)) := by
        intro c hc
        exact .inl (Option.some.inj hc).symm
      rw [w.readPhrase?_text space free', Keyword.skipSpace_cons_space]
    have last : ∀ v ∈ ws.getLast?, v ∈ (w :: ws).getLast? := by
      intro v hv
      rw [Option.mem_def] at hv ⊢
      rw [List.getLast?_cons, hv, Option.getD_some]
    have ih := ih fun v hv => free v (last v hv)
    rw [whole, readPhrases_of_some read, ih]
    rfl

/-- Words, each with a space behind it. -/
def Rule.spaced (r : Rule) (ks : List Keyword) : Text := ks.flatMap fun k => r.word k ++ [' ']

/-- Words, each with a space behind it, are read as their phrases, and the reader goes on behind
them. -/
theorem Rule.readPhrases_spaced {r : Rule} {ks : List Keyword}
    (hks : ∀ k ∈ ks, k ∈ Keyword.adjectives) (small : ∀ f, r.number f ≤ 99) {rest : Text}
    (free : ∀ k ∈ ks.getLast?, k.opensRealm → ¬ Keyword.realmWord <+: rest) :
    readPhrases (r.spaced ks ++ rest) =
      (ks.map r.phrase ++ (readPhrases rest).1, (readPhrases rest).2) := by
  obtain ⟨ws, rfl, texts, phrases⟩ := exists_wordings hks small
  have joined : r.spaced (ws.map (·.keyword)) =
      ((ws.map (·.keyword)).map r.word).flatMap (· ++ [' ']) := by rw [List.flatMap_map, spaced]
  have whole : r.spaced (ws.map (·.keyword)) = Wording.spaced ws := by
    rw [joined, ← texts, List.flatMap_map, Wording.spaced]
  rw [whole, ← phrases]
  refine Wording.readPhrases_spaced fun w hw => free w.keyword ?_
  rw [List.getLast?_map]
  exact Option.mem_map_of_mem _ hw

end LootRules
