import LootRules.Keyword
import LootRules.Rule
import LootRules.Text.Decimal

/-!
# Reading a rule line

A rule line has five parts, read from left to right:

* marks that pick the policy (`!` destroy, `~` leave, `;` ask) or hide matches from the map
  (`(`), as long as they say something new;
* phrases: adjectives, and thresholds with a number;
* the noun phrase: `artifact`, then one noun, either of which may be missing;
* the name pattern, behind a colon, or at the first word that belongs to none of the above;
* the inscription, behind the first `#`.

Everything before the inscription is read without regard to the case of the letters A to Z.
`parse` refuses the lines of other preference files, and lines with nothing before the
inscription.
-/

namespace LootRules

/-- The marks at the start of a line that belongs to another kind of preference: conditions,
included files, macro actions, macro triggers and keymaps. -/
def foreignMarks : List Char := ['?', '%', 'A', 'P', 'C']

/-- Whether a line belongs to another kind of preference. -/
def isForeign : Text → Bool
  | mark :: ':' :: _ => mark ∈ foreignMarks
  | _ => false

/-- What a mark at the start of a line does to the action. Only the first policy counts, and
matches can be hidden only once; after that the same character is part of the text. -/
def Action.mark? (a : Action) : Char → Option Action
  | '!' => if a.pickup then some (a.withPolicy .destroy) else none
  | '~' => if a.pickup then some (a.withPolicy .leave) else none
  | ';' => if a.pickup then some (a.withPolicy .query) else none
  | '(' => if a.display then some a.hidden else none
  | _ => none

/-- Reads the marks at the start of a line. -/
def readMarks (a : Action) : Text → Action × Text
  | [] => (a, [])
  | c :: s =>
    match a.mark? c with
    | some a' => readMarks a' s
    | none => (a, c :: s)

/-- An adjective, or a threshold with its number. -/
structure Phrase where
  flag : Flag
  number : Nat := 0
  deriving DecidableEq, Repr

/-- Reads the number of a threshold: one or two digits behind any number of spaces, and then
the suffix, if it is there. More digits are no number. -/
def readThreshold? (suffix s : Text) : Option (Nat × Text) :=
  let s := s.dropWhile (· = ' ')
  let digits := s.takeWhile Char.isDigit
  let rest := s.dropWhile Char.isDigit
  if digits.length = 1 ∨ digits.length = 2 then
    some (Text.digitsValue digits, (Keyword.behind? suffix rest).getD rest)
  else none

/-- Reads one keyword of the first part of a line. -/
def Keyword.readPhrase? (k : Keyword) (s : Text) : Option (Phrase × Text) :=
  (Keyword.behind? k.text s).bind fun rest =>
    match k.slot with
    | .threshold suffix =>
      (readThreshold? suffix rest).map fun (n, rest) => ({ flag := k.flag, number := n }, rest)
    | _ => some ({ flag := k.flag }, rest)

/-- Reads one phrase: the longest keyword that fits and, for a threshold, has its number. -/
def readPhrase? (s : Text) : Option (Phrase × Text) :=
  Keyword.adjectives.findSome? (·.readPhrase? s)

/-- What stands behind a keyword is shorter by the keyword at least. -/
theorem Keyword.behind?_length_le {key s rest : Text} (h : Keyword.behind? key s = some rest) :
    rest.length + key.length ≤ s.length := by
  simp only [Keyword.behind?, Option.map_eq_some_iff] at h
  obtain ⟨t, ht, rfl⟩ := h
  rw [Text.isPrefixOf?_eq_some_iff] at ht
  have whole : s.length = key.length + t.length := by rw [ht, List.length_append]
  cases hs : " ".toList.isPrefixOf? t with
  | none => simp only [Option.getD_none]; omega
  | some u =>
    rw [Text.isPrefixOf?_eq_some_iff] at hs
    have : t.length = 1 + u.length := by rw [hs, List.length_append]; rfl
    simp only [Option.getD_some]
    omega

/-- Reading a number makes the text no longer. -/
theorem readThreshold?_length_le {suffix s rest : Text} {n : Nat}
    (h : readThreshold? suffix s = some (n, rest)) : rest.length ≤ s.length := by
  simp only [readThreshold?] at h
  split at h
  · simp only [Option.some.injEq, Prod.mk.injEq] at h
    obtain ⟨_, rfl⟩ := h
    have h₁ := (List.dropWhile_sublist Char.isDigit (l := s.dropWhile (· = ' '))).length_le
    have h₂ := (List.dropWhile_sublist (· = ' ') (l := s)).length_le
    cases hk : Keyword.behind? suffix ((s.dropWhile (· = ' ')).dropWhile Char.isDigit) with
    | none => simp only [Option.getD_none]; omega
    | some t =>
      have := Keyword.behind?_length_le hk
      simp only [Option.getD_some]; omega
  · simp at h

/-- Every keyword has a text. -/
theorem Keyword.text_ne_nil_of_mem_adjectives {k : Keyword} (h : k ∈ Keyword.adjectives) :
    k.text ≠ [] := by
  have all : ∀ k ∈ Keyword.adjectives, k.text ≠ [] := by decide +kernel
  exact all k h

/-- A phrase takes at least one character. -/
theorem readPhrase?_length_lt {s rest : Text} {p : Phrase}
    (h : readPhrase? s = some (p, rest)) : rest.length < s.length := by
  obtain ⟨k, hk, h⟩ := List.exists_of_findSome?_eq_some h
  have pos := List.length_pos_iff.mpr (Keyword.text_ne_nil_of_mem_adjectives hk)
  simp only [Keyword.readPhrase?, Option.bind_eq_some_iff] at h
  obtain ⟨t, ht, h⟩ := h
  have := Keyword.behind?_length_le ht
  split at h
  · simp only [Option.map_eq_some_iff, Prod.exists, Prod.mk.injEq] at h
    obtain ⟨n, u, hu, -, rfl⟩ := h
    have := readThreshold?_length_le hu
    omega
  · simp only [Option.some.injEq, Prod.mk.injEq] at h
    obtain ⟨-, rfl⟩ := h
    omega

/-- Reads phrases as long as there are any. -/
def readPhrases (s : Text) : List Phrase × Text :=
  match _ : readPhrase? s with
  | none => ([], s)
  | some (p, rest) => (p :: (readPhrases rest).1, (readPhrases rest).2)
termination_by s.length
decreasing_by all_goals exact readPhrase?_length_lt ‹_›

/-- Reads the noun phrase and the name pattern.

A colon ends the noun phrase and starts the name. At the end of the line a noun phrase with
no word in it means any item. Otherwise the line goes on with text that is no keyword, and
then the last word of the noun phrase is not one either: the name starts with it. -/
def readEnding (s : Text) : List Flag × Text :=
  let afterArtifact := Keyword.behind? Keyword.artifact.text s
  let artifact : List Flag := if afterArtifact.isSome then [.artifact] else []
  let t := afterArtifact.getD s
  let noun := Keyword.nounAt? t
  let nouns : List Flag := noun.toList.map (·.flag)
  match (noun.bind fun k => Keyword.behind? k.text t).getD t with
  | ':' :: name => (artifact ++ nouns, name)
  | [] => (if afterArtifact.isNone && noun.isNone then [.items] else artifact ++ nouns, [])
  | _ => if noun.isSome then (artifact, t) else ([], s)

/-- The number given last for a threshold, or zero. -/
def lastNumber (f : Flag) (ps : List Phrase) : Nat :=
  ((ps.filter (·.flag = f)).getLast?.map (·.number)).getD 0

namespace Rule

/-- The rule of a line, already stripped of its marks and its inscription. -/
def ofBody (action : Action) (inscription : Option Text) (body : Text) : Rule :=
  let phrases := (readPhrases body).1
  let ending := readEnding (readPhrases body).2
  { action, inscription
    flags := FlagSet.ofList (phrases.map (·.flag) ++ ending.1)
    dice := lastNumber .moreDice phrases
    bonus := lastNumber .moreBonus phrases
    name := ending.2 }

/-- Reads a rule line. A line whose text before the inscription is empty is a rule only if
that is allowed and there is no inscription either. -/
def parse (line : Text) (allowEmpty : Bool) : Option Rule :=
  if isForeign line then none
  else
    let marked := readMarks {} line
    let parts := Text.splitFirst '#' marked.2
    if parts.1.isEmpty && (!allowEmpty || parts.2.isSome) then none
    else some (ofBody marked.1 parts.2 (Text.asciiLower parts.1))

end Rule

end LootRules
