/-!
# Text

Rule lines, item names, conditions and whole files are lists of characters, so that every
reader in this library is a recursion on the text that is left. Strings are met only where
constants are written and where a program talks to its surroundings.

The module holds the few operations on text that the readers share: the first occurrence of
a text in another, splitting at the first mark, the lines of a file, and words with single
spaces between them. `lines` and `unlines` are the two directions of one file format; what
`lines` makes of the final line break and of carriage returns is said at its definition.
-/

namespace LootRules

/-- A run of characters. -/
abbrev Text := List Char

instance : Coe String Text := ⟨String.toList⟩

namespace Text

/-- The letters A to Z lowered; no other character changes. -/
def asciiLower (s : Text) : Text := s.map Char.toLower

/-- Control characters: the code points below the space, and those from delete to U+009F. -/
def isControl (c : Char) : Bool := c.toNat < 0x20 || (0x7F ≤ c.toNat && c.toNat ≤ 0x9F)

/-- A text that starts with `start` is `start` followed by the rest. -/
theorem isPrefixOf?_eq_some_iff {start s rest : Text} :
    start.isPrefixOf? s = some rest ↔ s = start ++ rest := by
  induction start generalizing s with
  | nil => exact ⟨Option.some.inj, congrArg some⟩
  | cons c start ih =>
    cases s with
    | nil => exact ⟨nofun, nofun⟩
    | cons d s =>
      change (if c == d then start.isPrefixOf? s else none) = some rest ↔ _
      rw [List.cons_append, List.cons.injEq, ← ih]
      simp only [beq_iff_eq]
      split
      · next same => simp [same]
      · next differ => simp [Ne.symm differ]

/-- What stands before the first occurrence of `needle`, if it occurs at all. -/
def before? (needle : Text) : Text → Option Text
  | [] => if needle.isEmpty then some [] else none
  | c :: s =>
    if needle.isPrefixOf (c :: s) then some [] else (before? needle s).map (List.cons c)

/-- Whether `needle` occurs somewhere in the text. -/
def occurs (needle s : Text) : Bool := (before? needle s).isSome

/-- The text before the first `mark`, and the text behind it if the mark is there. -/
def splitFirst (mark : Char) : Text → Text × Option Text
  | [] => ([], none)
  | c :: s =>
    if c = mark then ([], some s)
    else ((c :: (splitFirst mark s).1), (splitFirst mark s).2)

/-- The lines of a file. A line feed ends a line and takes one carriage return before it
along; the last line needs no line feed, and a file that ends in one has no further line.
Any other carriage return belongs to its line. -/
def lines : Text → List Text
  | [] => []
  | '\n' :: s => [] :: lines s
  | '\r' :: '\n' :: s => [] :: lines s
  | c :: s =>
    match lines s with
    | [] => [[c]]
    | l :: ls => (c :: l) :: ls

/-- Every line followed by a line feed. -/
def unlines : List Text → Text
  | [] => []
  | l :: ls => l ++ '\n' :: unlines ls

/-- Words with one space between neighbours. -/
def unwords : List Text → Text
  | [] => []
  | [w] => w
  | w :: v :: ws => w ++ ' ' :: unwords (v :: ws)

end Text

end LootRules
