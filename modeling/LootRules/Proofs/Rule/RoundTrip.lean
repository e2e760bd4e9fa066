import LootRules.Proofs.Rule.Body

/-!
# Rules read back from their lines

A line is its marks, its body and its inscription. The marks of a single policy are read back
and stop in front of the body, which holds no mark of an inscription and no capital. So a
written line always has a rule, and it is the rule that was written unless its last word and
its name merge into the keyword of a realm.

The exception is reached by rules that were read from a line themselves, since a colon can
stand between `first` and `realm's` there: the rule of `first:realm's` is not read back.
-/

namespace LootRules

/-- The characters that can be marks. -/
def markChars : List Char := ['!', '~', ';', '(']

/-- A text that does not begin with a mark has none. -/
theorem readMarks_of_head {a : Action} {s : Text} (h : ∀ c ∈ s.head?, c ∉ markChars) :
    readMarks a s = (a, s) := by
  cases s with
  | nil => rfl
  | cons c s =>
    have noMark : a.mark? c = none := by
      have first := h c rfl
      simp only [markChars, List.mem_cons, List.not_mem_nil, or_false, not_or] at first
      simp only [Action.mark?]
      split
      · exact absurd rfl first.1
      · exact absurd rfl first.2.1
      · exact absurd rfl first.2.2.1
      · exact absurd rfl first.2.2.2
      · rfl
    rw [readMarks, noMark]

namespace Rule

/-- The marks of a single policy are read back. -/
theorem readMarks_marks {a : Action} (h : ∃ p, a.policy? = some p) {s : Text}
    (stop : ∀ c ∈ s.head?, c ∉ markChars) : readMarks {} (marks a ++ s) = (a, s) := by
  obtain ⟨p, policy⟩ := h
  have single := Action.policy?_eq_some_iff.mp policy
  rw [marks, policy, single]
  cases a.display <;> cases p <;> exact readMarks_of_head stop

/-- A line begins with a keyword, with a colon, or with a name that needs none. -/
theorem body_cases (r : Rule) :
    (∃ c, r.body.head? = some c ∧ (c.isLower ∨ c = '*' ∨ c = ':')) ∨
      r.body = r.name ∧ r.name ≠ [] ∧ needsColon r.name = false := by
  rw [body]
  cases keywords : r.keywords with
  | nil =>
    have noun : r.hasNounPhrase = false := by
      rw [hasNounPhrase, keywords]
      rfl
    rw [renderName, noun, keywords]
    split
    · contradiction
    · split
      · exact .inl ⟨':', rfl, .inr (.inr rfl)⟩
      · next bare =>
        rw [Bool.not_eq_true, Bool.or_eq_false_iff, List.isEmpty_eq_false_iff] at bare
        exact .inr ⟨rfl, bare⟩
  | cons k ks =>
    have mem : k ∈ Keyword.table := by
      have written : k ∈ r.keywords := by
        rw [keywords]
        exact List.mem_cons_self
      exact (List.mem_filter.mp written).1
    obtain ⟨c, first, lower⟩ := Keyword.head_text mem
    refine .inl ⟨c, ?_, lower.elim .inl fun star => .inr (.inl star)⟩
    obtain ⟨rest, word, -⟩ := r.exists_word_eq k
    obtain ⟨more, words⟩ := Text.exists_unwords_cons_eq (r.word k) (ks.map r.word)
    rw [List.map_cons, words, word, List.append_assoc, List.append_assoc, List.head?_append, first]
    rfl

/-- A text whose first character is no mark of another kind is no line of another kind. -/
theorem isForeign_of_head {s : Text} (h : ∀ c ∈ s.head?, c ∉ foreignMarks) :
    isForeign s = false := by
  unfold isForeign
  split
  · next c s =>
    have first := h c rfl
    exact decide_eq_false first
  · rfl

/-- What stands behind a line makes it no line of another kind, if it begins with no colon. -/
theorem isForeign_append {s t : Text} (nonempty : s ≠ []) (h : isForeign s = false)
    (colon : t.head? ≠ some ':') : isForeign (s ++ t) = false := by
  obtain ⟨c, s, rfl⟩ := List.exists_cons_of_ne_nil nonempty
  cases s with
  | nil =>
    rw [List.singleton_append]
    unfold isForeign
    split
    · next same =>
      rw [List.cons.injEq] at same
      rw [same.2] at colon
      exact absurd rfl colon
    · rfl
  | cons d s =>
    by_cases second : d = ':'
    · rw [second] at h ⊢
      exact h
    · unfold isForeign
      split
      · next same =>
        simp only [List.cons_append, List.cons.injEq] at same
        exact absurd same.2.1 second
      · rfl

/-- The first character of a keyword is no mark, and neither is a colon. -/
theorem not_mem_marks {c : Char} (h : c.isLower ∨ c = '*' ∨ c = ':') :
    c ∉ markChars ∧ c ∉ foreignMarks := by
  have apart : (markChars ++ foreignMarks).all fun c => !(c.isLower || c = '*' || c = ':') := by
    decide
  have neither : c ∉ markChars ++ foreignMarks := by
    intro mark
    have other : ¬ (c.isLower ∨ c = '*' ∨ c = ':') := by
      simpa [and_assoc] using List.all_eq_true.mp apart c mark
    exact other h
  rw [List.mem_append, not_or] at neither
  exact neither

/-- A body is not empty, has no mark in front, and is no line of another kind. -/
theorem body_head (r : Rule) :
    r.body ≠ [] ∧ (∀ c ∈ r.body.head?, c ∉ markChars) ∧ isForeign r.body = false := by
  rcases r.body_cases with ⟨c, first, kind⟩ | ⟨bare, nonempty, silent⟩
  · have noMark := not_mem_marks kind
    have only : ∀ d ∈ r.body.head?, d = c := fun d hd => by
      rw [Option.mem_def, first] at hd
      exact (Option.some.inj hd).symm
    refine ⟨fun empty => ?_, fun d hd => only d hd ▸ noMark.1, ?_⟩
    · rw [empty] at first
      contradiction
    · exact isForeign_of_head fun d hd => only d hd ▸ noMark.2
  · obtain ⟨-, separators, foreign⟩ := of_needsColon_eq_false silent
    rw [bare]
    refine ⟨nonempty, fun c hc mark => separators c hc ?_, foreign⟩
    exact List.mem_append_left [':'] mark

/-- The characters of a line without its inscription. -/
def Plain (c : Char) : Prop := c ≠ '#' ∧ c.isUpper = false

/-- Words of plain characters make a plain text. -/
theorem plain_unwords {ws : List Text} (h : ∀ w ∈ ws, ∀ c ∈ w, Plain c) :
    ∀ c ∈ Text.unwords ws, Plain c := by
  induction ws with
  | nil => exact nofun
  | cons w ws ih =>
    have rest := ih fun v hv => h v (List.mem_cons_of_mem w hv)
    have first := h w List.mem_cons_self
    cases ws with
    | nil => exact first
    | cons v ws =>
      intro c hc
      rw [Text.unwords, List.mem_append, List.mem_cons] at hc
      rcases hc with word | rfl | more
      · exact first c word
      · exact ⟨by decide, by decide⟩
      · exact rest c more

/-- Whether all characters are plain can be computed. -/
theorem plain_iff {s : Text} :
    (s.all fun c => c ≠ '#' && !c.isUpper) = true ↔ ∀ c ∈ s, Plain c := by
  simp [Plain]

/-- Keywords and their suffixes are plain. -/
theorem plain_of_mem {k : Keyword} (hk : k ∈ Keyword.table) :
    (∀ c ∈ k.text, Plain c) ∧ ∀ c ∈ k.suffix, Plain c := by
  have regular := (Keyword.regular_of_mem hk).plain
  rw [List.all_append, Bool.and_eq_true, plain_iff, plain_iff] at regular
  exact regular

/-- Thresholds with their numbers are plain. -/
theorem plain_threshold {k : Keyword} (hk : k ∈ Keyword.table) {suffix digits : Text}
    (slot : k.slot = .threshold suffix) (number : ∀ c ∈ digits, c.isDigit) :
    ∀ c ∈ k.text ++ ' ' :: digits ++ suffix, Plain c := by
  obtain ⟨text, ending⟩ := plain_of_mem hk
  rw [Keyword.suffix, slot] at ending
  intro c hc
  simp only [List.mem_append, List.mem_cons] at hc
  rcases hc with (hc | rfl | hc) | hc
  · exact text c hc
  · exact ⟨by decide, by decide⟩
  · have digit := number c hc
    refine ⟨?_, (Text.isDigit_bound digit).2⟩
    rintro rfl
    exact absurd digit (by decide)
  · exact ending c hc

/-- The words of a rule are plain. -/
theorem plain_word (r : Rule) {k : Keyword} (hk : k ∈ Keyword.table) :
    ∀ c ∈ r.word k, Plain c := by
  rw [word]
  cases slot : k.slot with
  | threshold suffix => exact plain_threshold hk slot fun _ hc => Text.isDigit_of_mem_decimal hc
  | adjective | preNoun | noun => exact (plain_of_mem hk).1

/-- Phrases are plain. -/
theorem plain_text (w : Wording) : ∀ c ∈ w.text, Plain c := by
  cases w with
  | adjective k mem slot => exact (plain_of_mem mem).1
  | threshold k suffix digits mem slot number => exact plain_threshold mem slot number

/-- A body is plain. -/
theorem plain_body {r : Rule} (h : r.Writable) : ∀ c ∈ r.body, Plain c := by
  have name : ∀ c ∈ r.name, Plain c := fun c hc =>
    ⟨fun same => h.not_mem_name (same ▸ hc), h.name_lower c hc⟩
  have sign : Plain ':' ∧ Plain ' ' := ⟨⟨by decide, by decide⟩, ⟨by decide, by decide⟩⟩
  intro c hc
  rw [body, List.mem_append] at hc
  cases hc with
  | inl words =>
    refine plain_unwords (fun w hw => ?_) c words
    obtain ⟨k, hk, rfl⟩ := List.mem_map.mp hw
    exact r.plain_word (List.mem_filter.mp hk).1
  | inr named =>
    rw [renderName] at named
    split at named <;> split at named
    · contradiction
    · exact (List.mem_cons.mp named).elim (fun same => same ▸ sign.1) (name c)
    · exact (List.mem_cons.mp named).elim (fun same => same ▸ sign.1) (name c)
    · split at named
      · exact name c named
      · exact (List.mem_cons.mp named).elim (fun same => same ▸ sign.2) (name c)

/-- What stands in front of a body begins with a mark, if anything does. -/
theorem marks_cases (a : Action) : marks a = [] ∨ ∃ c s, marks a = c :: s ∧ c ∈ markChars := by
  rw [marks]
  cases a.display
  · exact .inr ⟨'(', _, rfl, by decide⟩
  · rcases a.policy? with - | p
    · exact .inl rfl
    · cases p
      case pickup => exact .inl rfl
      all_goals exact .inr ⟨_, [], rfl, by decide⟩

/-- The inscription of a rule as its line has it. -/
def inscribed (r : Rule) : Text := (r.inscription.map ('#' :: ·)).getD []

/-- The line of a rule is its marks, its body and its inscription. -/
theorem render_eq (r : Rule) : r.render = marks r.action ++ (r.body ++ r.inscribed) := by
  rw [render, body, inscribed]
  simp only [List.append_assoc]
  cases r.inscription <;> rfl

/-- A body without the mark of an inscription is split off in front of the inscription. -/
theorem splitFirst_body {r : Rule} (h : '#' ∉ r.body) :
    Text.splitFirst '#' (r.body ++ r.inscribed) = (r.body, r.inscription) := by
  rw [inscribed]
  cases r.inscription with
  | none => exact (congrArg _ (List.append_nil _)).trans (Text.splitFirst_of_not_mem h)
  | some text => exact Text.splitFirst_append_cons h text

/-- A line that was written is no line of another kind. -/
theorem isForeign_render (r : Rule) : isForeign r.render = false := by
  obtain ⟨nonempty, -, native⟩ := r.body_head
  rw [render_eq]
  rcases marks_cases r.action with unmarked | ⟨c, s, marked, mark⟩
  · rw [unmarked, List.nil_append]
    refine isForeign_append nonempty native ?_
    rw [inscribed]
    cases r.inscription <;> simp
  · rw [marked]
    have apart : markChars.all fun c => !foreignMarks.contains c := by decide
    have other : c ∉ foreignMarks := by simpa using List.all_eq_true.mp apart c mark
    exact isForeign_of_head fun d hd => Option.some.inj hd ▸ other

/-- A written line always has a rule: that of its body, with the marks and the inscription. -/
theorem parse_render {r : Rule} (h : r.Writable) {allowEmpty : Bool} :
    parse r.render allowEmpty = some (ofBody r.action r.inscription r.body) := by
  obtain ⟨nonempty, noMark, -⟩ := r.body_head
  have plain := plain_body h
  have marked : readMarks {} r.render = (r.action, r.body ++ r.inscribed) := by
    rw [render_eq]
    refine readMarks_marks h.policy fun c hc => noMark c ?_
    obtain ⟨d, s, body⟩ := List.exists_cons_of_ne_nil nonempty
    rw [body] at hc ⊢
    exact hc
  have parts := splitFirst_body fun mem => (plain '#' mem).1 rfl
  have lower : Text.asciiLower r.body = r.body :=
    Text.asciiLower_eq_self fun c hc => (plain c hc).2
  have written : r.body.isEmpty = false := List.isEmpty_eq_false_iff.mpr nonempty
  simp only [parse, isForeign_render, marked, parts, written, lower, Bool.false_and,
    Bool.false_eq_true, if_false]

/-- The body of a rule is read as that rule just when nothing merges. -/
theorem ofBody_body_iff {r : Rule} (h : r.Writable) :
    ofBody r.action r.inscription r.body = r ↔ ¬ r.MergesIntoRealm := by
  constructor
  · intro same merges
    have shorter := length_name_ofBody_lt h merges
    rw [same] at shorter
    exact Nat.lt_irrefl _ shorter
  · exact ofBody_body h

/-- A rule that the format has room for is read back from its line, unless its last word and its
name merge into the keyword of a realm. -/
theorem parse_render_eq_some_iff {r : Rule} (h : r.Writable) :
    parse r.render true = some r ↔ ¬ r.MergesIntoRealm := by
  rw [parse_render h, Option.some.injEq]
  exact ofBody_body_iff h

/-- A rule whose name does not begin as the rest of a realm's keyword does is read back. -/
theorem parse_render_of_name {r : Rule} (h : r.Writable) (name : ¬ Keyword.realmWord <+: r.name)
    {allowEmpty : Bool} : parse r.render allowEmpty = some r := by
  rw [parse_render h, ofBody_body h fun merges => name merges.name]

/-- A rule with marks, a threshold, a noun, a name and an inscription. -/
def soldWeapons : Rule where
  action := { display := false, pickup := false, destroy := true }
  flags := .ofList [.moreDice, .unaware, .weapons]
  dice := 12
  name := "of slaying".toList
  inscription := some "Sell #1".toList

/-- There is room for all parts of a rule in one line, and they are read back. -/
theorem parse_render_soldWeapons :
    soldWeapons.Writable ∧ parse soldWeapons.render true = some soldWeapons ∧
      ¬ soldWeapons.MergesIntoRealm := by
  have read : parse soldWeapons.render true = some soldWeapons := by decide +kernel
  have room := writable_of_parse read
  exact ⟨room, read, (parse_render_eq_some_iff room).mp read⟩

/-- The rule of a line has a line that gives a rule again, with the same action and inscription,
and the same rule unless its last word and its name merge into the keyword of a realm. -/
theorem parse_render_of_parse {line : Text} {r : Rule} (h : parse line true = some r) :
    ∃ r', parse r.render true = some r' ∧ r'.action = r.action ∧
      r'.inscription = r.inscription ∧ (r' = r ↔ ¬ r.MergesIntoRealm) := by
  have room := writable_of_parse h
  exact ⟨ofBody r.action r.inscription r.body, parse_render room, rfl, rfl, ofBody_body_iff room⟩

/-- The line of sold weapons with capitals in it gives their rule, and so does their own line. -/
theorem parse_render_of_parse_soldWeapons :
    parse "(!UNAWARE more than 12 dice Weapons:Of Slaying#Sell #1".toList true =
        some soldWeapons ∧
      ∃ r', parse soldWeapons.render true = some r' ∧ r'.action = soldWeapons.action ∧
        r'.inscription = soldWeapons.inscription ∧
        (r' = soldWeapons ↔ ¬ soldWeapons.MergesIntoRealm) := by
  have read : parse "(!UNAWARE more than 12 dice Weapons:Of Slaying#Sell #1".toList true =
      some soldWeapons := by decide +kernel
  exact ⟨read, parse_render_of_parse read⟩

/-- The rule of `first:realm's`, for the first book of any realm that has this word in its name. -/
def firstNamedRealm : Rule where
  flags := .ofList [.first]
  name := "realm's".toList

/-- The rule of `first:realm's` is written without the colon, and then it is the rule for the
books of the first realm. -/
theorem parse_render_firstNamedRealm_ne :
    parse "first:realm's".toList true = some firstNamedRealm ∧
      firstNamedRealm.render = "first realm's".toList ∧
      parse firstNamedRealm.render true = some { flags := .ofList [.realm1, .items] } ∧
      parse firstNamedRealm.render true ≠ some firstNamedRealm := by
  decide +kernel

end Rule

end LootRules
