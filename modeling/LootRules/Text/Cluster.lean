import LootRules.Text
import LootRules.Text.ClusterTable

/-!
# Grapheme clusters

A cluster is what a reader takes for one character: a letter with its marks, a syllable, an
emoji made of several, a carriage return with its line feed. The rules are those for
extended grapheme clusters in Unicode 17.

Whether a character joins the cluster before it depends on that cluster alone, through a
short summary of it: the part that its last character plays, whether a regional indicator
at its end still lacks its partner, and how far a pictograph or a conjunct at its end has
come. `clusters` cuts a text from left to right by that summary. The clusters are never
empty, and put together they are the text.
-/

namespace LootRules.Text

/-- The part that a character plays in clusters. -/
inductive ClusterRole where
  | carriageReturn | lineFeed | control
  | extend | linker | joiner | nonJoiner | spacing | prepend
  | consonant | pictograph | regional
  | hangulLead | hangulVowel | hangulTail | hangulOpen | hangulClosed
  | other
  deriving DecidableEq, Repr

/-- The part of a code point beyond ASCII. -/
def clusterRoleBeyondAscii (n : Nat) : ClusterRole :=
  if n = 0x200C then .nonJoiner
  else if n = 0x200D then .joiner
  else if 0x1F1E6 ≤ n && n ≤ 0x1F1FF then .regional
  else if 0xAC00 ≤ n && n ≤ 0xD7A3 then
    if (n - 0xAC00) % 28 = 0 then .hangulOpen else .hangulClosed
  else if controlRanges.covers n then .control
  else if extendRanges.covers n then .extend
  else if linkerRanges.covers n then .linker
  else if spacingRanges.covers n then .spacing
  else if prependRanges.covers n then .prepend
  else if consonantRanges.covers n then .consonant
  else if pictographRanges.covers n then .pictograph
  else if hangulLeadRanges.covers n then .hangulLead
  else if hangulVowelRanges.covers n then .hangulVowel
  else if hangulTailRanges.covers n then .hangulTail
  else .other

/-- The part of a character. -/
def clusterRole (c : Char) : ClusterRole :=
  if c = '\r' then .carriageReturn
  else if c = '\n' then .lineFeed
  else if c.toNat < 0x20 || c.toNat = 0x7F then .control
  else if c.toNat < 0x7F then .other
  else clusterRoleBeyondAscii c.toNat

/-- How far a pictograph at the end of a cluster has come: marks may follow it, and a joiner
makes it wait for another pictograph. -/
inductive PictographState where
  | none | shown | joined
  deriving DecidableEq, Repr

/-- How far a conjunct at the end of a cluster has come: a linker behind a consonant makes it
wait for another consonant. -/
inductive ConjunctState where
  | none | consonant | linked
  deriving DecidableEq, Repr

/-- What decides whether a character joins a cluster. -/
structure ClusterEnd where
  last : ClusterRole := .other
  /-- The cluster ends in a regional indicator without a partner. -/
  unpaired : Bool := false
  pictograph : PictographState := .none
  conjunct : ConjunctState := .none
  deriving DecidableEq, Repr

namespace ClusterEnd

/-- The end of a cluster after one more character. -/
def next (e : ClusterEnd) (role : ClusterRole) : ClusterEnd where
  last := role
  unpaired := role = .regional && !e.unpaired
  pictograph :=
    match role, e.pictograph with
    | .pictograph, _ => .shown
    | .extend, .shown | .linker, .shown | .nonJoiner, .shown => .shown
    | .joiner, .shown => .joined
    | _, _ => .none
  conjunct :=
    match role, e.conjunct with
    | .consonant, _ => .consonant
    | .linker, .consonant | .linker, .linked => .linked
    | .extend, state | .joiner, state => state
    | _, _ => .none

/-- The end of a cluster of one character. -/
def start (role : ClusterRole) : ClusterEnd := next {} role

/-- Whether a character joins the cluster that ends so. Controls stand alone, but for the line
feed behind a carriage return; then Hangul syllables, marks, what is prepended, conjuncts,
joined pictographs and pairs of regional indicators hold together. -/
def joins (e : ClusterEnd) (role : ClusterRole) : Bool :=
  match e.last, role with
  | .carriageReturn, .lineFeed => true
  | .carriageReturn, _ | .lineFeed, _ | .control, _ => false
  | _, .carriageReturn | _, .lineFeed | _, .control => false
  | .hangulLead, .hangulLead | .hangulLead, .hangulVowel | .hangulLead, .hangulOpen
  | .hangulLead, .hangulClosed => true
  | .hangulOpen, .hangulVowel | .hangulOpen, .hangulTail
  | .hangulVowel, .hangulVowel | .hangulVowel, .hangulTail => true
  | .hangulClosed, .hangulTail | .hangulTail, .hangulTail => true
  | _, .extend | _, .linker | _, .joiner | _, .nonJoiner | _, .spacing => true
  | .prepend, _ => true
  | _, .consonant => e.conjunct = .linked
  | _, .pictograph => e.pictograph = .joined
  | _, .regional => e.unpaired
  | _, _ => false

end ClusterEnd

/-- What a text adds to a cluster that ends so, and the clusters behind it. -/
def clustersAfter (e : ClusterEnd) : Text → Text × List Text
  | [] => ([], [])
  | c :: s =>
    let role := clusterRole c
    if e.joins role then
      let (more, rest) := clustersAfter (e.next role) s
      (c :: more, rest)
    else
      let (more, rest) := clustersAfter (.start role) s
      ([], (c :: more) :: rest)

/-- The grapheme clusters of a text, in order. -/
def clusters : Text → List Text
  | [] => []
  | c :: s =>
    let (more, rest) := clustersAfter (.start (clusterRole c)) s
    (c :: more) :: rest

/-- Cutting a text into clusters loses nothing. -/
theorem clustersAfter_flatten (e : ClusterEnd) (s : Text) :
    (clustersAfter e s).1 ++ (clustersAfter e s).2.flatten = s := by
  induction s generalizing e with
  | nil => rfl
  | cons c s ih =>
    simp only [clustersAfter]
    split
    · simp [ih]
    · simpa using ih _

/-- The clusters of a text, put together, are the text. -/
theorem clusters_flatten (s : Text) : (clusters s).flatten = s := by
  cases s with
  | nil => rfl
  | cons c s => simp [clusters, clustersAfter_flatten]

end LootRules.Text
