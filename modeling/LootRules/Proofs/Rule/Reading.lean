import LootRules.Proofs.Keyword
import LootRules.Proofs.Text
import LootRules.Rule.Parse

/-!
# What reading a rule line gives

Reading goes through a line from left to right: what a reader leaves is always the end of
what it was given, so the name of a rule is the end of the text before the inscription, in
lower case. Thresholds have at most two digits, at most one noun is read, and the marks
always leave a single policy. These facts together say that every rule that is read belongs
to the rules that the format of a line has room for.
-/

namespace LootRules

/-- A rule that the format of a line has room for: one policy, at most one noun, thresholds of
two digits that are given only with their flags, and a name in lower case without the mark of
an inscription. -/
structure Rule.Writable (r : Rule) : Prop where
  policy : ∃ p, r.action.policy? = some p
  noun_unique : ∀ f ∈ r.flags, ∀ g ∈ r.flags, f.isNoun → g.isNoun → f = g
  dice_le : r.dice ≤ 99
  bonus_le : r.bonus ≤ 99
  dice_eq_zero : .moreDice ∉ r.flags → r.dice = 0
  bonus_eq_zero : .moreBonus ∉ r.flags → r.bonus = 0
  not_mem_name : '#' ∉ r.name
  name_lower : ∀ c ∈ r.name, c.isUpper = false

/-- The members of the set of some flags are these flags. -/
theorem FlagSet.mem_ofList {f : Flag} {fs : List Flag} : f ∈ FlagSet.ofList fs ↔ f ∈ fs := by
  change (FlagSet.ofList fs).contains f = true ↔ _
  rw [FlagSet.contains_ofList, decide_eq_true_iff]

/-- What stands behind a keyword is the end of the text. -/
theorem Keyword.suffix_of_behind? {key s rest : Text} (h : Keyword.behind? key s = some rest) :
    rest <:+ s := by
  obtain ⟨t, rfl, rfl⟩ := Keyword.behind?_eq_some_iff.mp h
  exact (Keyword.skipSpace_suffix t).trans (List.suffix_append key t)

/-- A keyword that may be missing leaves the end of the text. -/
theorem Keyword.suffix_behind?_getD (key s : Text) : (Keyword.behind? key s).getD s <:+ s := by
  cases h : Keyword.behind? key s with
  | none => exact List.suffix_refl s
  | some rest => exact Keyword.suffix_of_behind? h

/-- A threshold has at most two digits, and leaves the end of the text. -/
theorem readThreshold?_bound {suffix s rest : Text} {n : Nat}
    (h : readThreshold? suffix s = some (n, rest)) : n ≤ 99 ∧ rest <:+ s := by
  simp only [readThreshold?] at h
  split at h
  · next short =>
    simp only [Option.some.injEq, Prod.mk.injEq] at h
    obtain ⟨rfl, rfl⟩ := h
    constructor
    · have digits : ∀ c ∈ (s.dropWhile (· = ' ')).takeWhile Char.isDigit, c.isDigit :=
        List.all_eq_true.mp List.all_takeWhile
      exact Text.digitsValue_le digits short
    · exact (Keyword.suffix_behind?_getD _ _).trans
        ((List.dropWhile_suffix _).trans (List.dropWhile_suffix _))
  · simp at h

/-- A keyword is read as a phrase with its flag, a number of at most two digits, and the end of
the text behind it. -/
theorem Keyword.readPhrase?_bound {k : Keyword} {s rest : Text} {p : Phrase}
    (h : k.readPhrase? s = some (p, rest)) : p.flag = k.flag ∧ p.number ≤ 99 ∧ rest <:+ s := by
  simp only [Keyword.readPhrase?, Option.bind_eq_some_iff] at h
  obtain ⟨t, ht, h⟩ := h
  have ends := Keyword.suffix_of_behind? ht
  split at h
  · simp only [Option.map_eq_some_iff, Prod.exists, Prod.mk.injEq] at h
    obtain ⟨n, u, hu, rfl, rfl⟩ := h
    obtain ⟨small, ends'⟩ := readThreshold?_bound hu
    exact ⟨rfl, small, ends'.trans ends⟩
  · simp only [Option.some.injEq, Prod.mk.injEq] at h
    obtain ⟨rfl, rfl⟩ := h
    exact ⟨rfl, Nat.zero_le 99, ends⟩

/-- A phrase whose flag and number can stand in the first part of a line. -/
def Phrase.Sound (p : Phrase) : Prop := p.flag.isNoun = false ∧ p.number ≤ 99

/-- The flag of an adjective is no noun. -/
theorem Keyword.isNoun_flag_of_isAdjective {k : Keyword} (hk : k ∈ Keyword.table)
    (h : k.isAdjective) : k.flag.isNoun = false := by
  refine Bool.eq_false_iff.mpr fun noun => ?_
  rw [Keyword.isAdjective, (Keyword.regular_of_mem hk).noun.mpr noun] at h
  contradiction

/-- One phrase is read soundly, and the end of the text is left. -/
theorem readPhrase?_sound {s rest : Text} {p : Phrase} (h : readPhrase? s = some (p, rest)) :
    p.Sound ∧ rest <:+ s := by
  obtain ⟨k, hk, h⟩ := List.exists_of_findSome?_eq_some h
  obtain ⟨flag, small, ends⟩ := Keyword.readPhrase?_bound h
  obtain ⟨mem, adjective⟩ := Keyword.mem_adjectives.mp hk
  exact ⟨⟨flag ▸ Keyword.isNoun_flag_of_isAdjective mem adjective, small⟩, ends⟩

/-- All phrases are read soundly, and the end of the text is left. -/
theorem readPhrases_sound (s : Text) :
    (∀ p ∈ (readPhrases s).1, p.Sound) ∧ (readPhrases s).2 <:+ s := by
  induction s using readPhrases.induct with
  | case1 s none =>
    rw [readPhrases, none]
    exact ⟨nofun, List.suffix_refl s⟩
  | case2 s p rest some ih =>
    obtain ⟨sound, ends⟩ := readPhrase?_sound some
    rw [readPhrases, some]
    exact ⟨List.forall_mem_cons.mpr ⟨sound, ih.1⟩, ih.2.trans ends⟩

/-- Behind a noun stands the end of the text. -/
theorem Keyword.suffix_behind_noun (t : Text) :
    ((Keyword.nounAt? t).bind fun k => Keyword.behind? k.text t).getD t <:+ t := by
  cases Keyword.nounAt? t with
  | none => exact List.suffix_refl t
  | some k => exact Keyword.suffix_behind?_getD k.text t

/-- The end of a line is read as `artifact`, one further flag, both or none, and what is left for
the name is the end of the text. -/
theorem readEnding_sound (s : Text) :
    (∃ f, (readEnding s).1 ⊆ [.artifact, f]) ∧ (readEnding s).2 <:+ s := by
  let t := (Keyword.behind? Keyword.artifact.text s).getD s
  have ends : t <:+ s := Keyword.suffix_behind?_getD Keyword.artifact.text s
  have ends' := (Keyword.suffix_behind_noun t).trans ends
  obtain ⟨f, nouns⟩ : ∃ f, (Keyword.nounAt? t).toList.map (·.flag) ⊆ [.artifact, f] := by
    cases Keyword.nounAt? t with
    | none => exact ⟨.items, List.nil_subset _⟩
    | some k => exact ⟨k.flag, by simp⟩
  have artifact :
      (if (Keyword.behind? Keyword.artifact.text s).isSome then [Flag.artifact] else []) ⊆
        [.artifact, f] := by
    split <;> simp
  have both := List.append_subset.mpr ⟨artifact, nouns⟩
  simp only [readEnding]
  split
  · next name colon =>
    exact ⟨⟨f, both⟩, (List.suffix_cons ':' name).trans (colon ▸ ends')⟩
  · refine ⟨?_, List.nil_suffix⟩
    split
    · exact ⟨.items, by simp⟩
    · exact ⟨f, both⟩
  · split
    · exact ⟨⟨f, artifact⟩, ends⟩
    · exact ⟨⟨f, List.nil_subset _⟩, List.suffix_refl s⟩

/-- Hiding matches keeps the policy. -/
theorem Action.policy?_hidden (a : Action) : a.hidden.policy? = a.policy? := rfl

/-- Replacing the policy leaves a single one. -/
theorem Action.policy?_withPolicy (a : Action) (p : Policy) : (a.withPolicy p).policy? = some p :=
  Action.policy?_single a.display p

/-- A mark keeps a single policy. -/
theorem Action.policy?_of_mark? {a b : Action} {c : Char} (h : ∃ p, a.policy? = some p)
    (mark : a.mark? c = some b) : ∃ p, b.policy? = some p := by
  simp only [Action.mark?] at mark
  split at mark
  case h_4 =>
    split at mark
    · rw [← Option.some.inj mark, Action.policy?_hidden]
      exact h
    · simp at mark
  case h_5 => simp at mark
  all_goals
    split at mark
    · rw [← Option.some.inj mark]
      exact ⟨_, Action.policy?_withPolicy a _⟩
    · simp at mark

/-- Reading marks keeps a single policy. -/
theorem policy?_readMarks {a : Action} (h : ∃ p, a.policy? = some p) (s : Text) :
    ∃ p, (readMarks a s).1.policy? = some p := by
  induction s generalizing a with
  | nil => exact h
  | cons c s ih =>
    rw [readMarks]
    cases mark : a.mark? c with
    | none => exact h
    | some b => exact ih (Action.policy?_of_mark? h mark)

/-- The number that counts for a flag has at most two digits. -/
theorem lastNumber_le {f : Flag} {ps : List Phrase} (h : ∀ p ∈ ps, p.Sound) :
    lastNumber f ps ≤ 99 := by
  rw [lastNumber]
  cases last : (ps.filter (·.flag = f)).getLast? with
  | none => exact Nat.zero_le 99
  | some p =>
    have mem := List.mem_of_getLast? last
    exact (h p (List.mem_filter.mp mem).1).2

/-- Without a phrase for a flag its number is zero. -/
theorem lastNumber_eq_zero {f : Flag} {ps : List Phrase} (h : f ∉ ps.map (·.flag)) :
    lastNumber f ps = 0 := by
  have empty : ps.filter (·.flag = f) = [] := by
    refine List.filter_eq_nil_iff.mpr fun p hp same => h ?_
    exact List.mem_map.mpr ⟨p, hp, of_decide_eq_true same⟩
  rw [lastNumber, empty]
  rfl

namespace Rule

/-- The flags of a rule that is read are those of its phrases and of its end. -/
theorem mem_flags_ofBody {action : Action} {inscription : Option Text} {body : Text} {f : Flag} :
    f ∈ (ofBody action inscription body).flags ↔
      f ∈ (readPhrases body).1.map (·.flag) ∨ f ∈ (readEnding (readPhrases body).2).1 := by
  rw [← List.mem_append]
  exact FlagSet.mem_ofList

/-- The name of a rule that is read is the end of the body. -/
theorem name_ofBody_suffix {action : Action} {inscription : Option Text} {body : Text} :
    (ofBody action inscription body).name <:+ body :=
  (readEnding_sound (readPhrases body).2).2.trans (readPhrases_sound body).2

/-- A text in lower case without the mark of an inscription gives a rule that has a line. -/
theorem writable_ofBody {action : Action} {inscription : Option Text} {body : Text}
    (policy : ∃ p, action.policy? = some p) (mark : '#' ∉ body)
    (lower : ∀ c ∈ body, c.isUpper = false) : (ofBody action inscription body).Writable := by
  obtain ⟨sound, -⟩ := readPhrases_sound body
  obtain ⟨⟨noun, ending⟩, -⟩ := readEnding_sound (readPhrases body).2
  have name : (ofBody action inscription body).name ⊆ body := name_ofBody_suffix.subset
  have only : ∀ f ∈ (ofBody action inscription body).flags, f.isNoun → f = noun := by
    intro f hf isNoun
    cases mem_flags_ofBody.mp hf with
    | inl phrase =>
      obtain ⟨p, hp, rfl⟩ := List.mem_map.mp phrase
      exact absurd isNoun (Bool.eq_false_iff.mp (sound p hp).1)
    | inr word =>
      cases List.mem_cons.mp (ending word) with
      | inl artifact => exact absurd isNoun (by rw [artifact]; decide)
      | inr rest => exact List.mem_singleton.mp rest
  exact
    { policy
      noun_unique := fun f hf g hg hf' hg' => (only f hf hf').trans (only g hg hg').symm
      dice_le := lastNumber_le sound
      bonus_le := lastNumber_le sound
      dice_eq_zero := fun h => lastNumber_eq_zero fun mem => h (mem_flags_ofBody.mpr (.inl mem))
      bonus_eq_zero := fun h => lastNumber_eq_zero fun mem => h (mem_flags_ofBody.mpr (.inl mem))
      not_mem_name := fun h => mark (name h)
      name_lower := fun c hc => lower c (name hc) }

/-- Every rule that is read has a line. -/
theorem writable_of_parse {line : Text} {allowEmpty : Bool} {r : Rule}
    (h : parse line allowEmpty = some r) : r.Writable := by
  simp only [parse] at h
  split at h
  · simp at h
  · split at h
    · simp at h
    · rw [Option.some.injEq] at h
      subst h
      refine writable_ofBody (policy?_readMarks ⟨.pickup, rfl⟩ line) ?_ ?_
      · exact Text.not_mem_asciiLower_of_not_mem (by decide) (Text.not_mem_splitFirst '#' _)
      · exact fun c hc => Text.isUpper_eq_false_of_mem_asciiLower hc

/-- What is read where an empty line is no rule is read where it is one. -/
theorem parse_true {line : Text} {allowEmpty : Bool} {r : Rule}
    (h : parse line allowEmpty = some r) : parse line true = some r := by
  cases allowEmpty with
  | true => exact h
  | false =>
    simp only [parse, Bool.not_false, Bool.true_or, Bool.and_true] at h
    split at h
    · contradiction
    · next native =>
      split at h
      · contradiction
      · next selects =>
        simp only [parse, if_neg native, selects, Bool.false_and, Bool.false_eq_true, if_false, h]

end Rule

end LootRules
