/-!
# Ranges of code points

A property of characters is a list of closed ranges of code points, ascending and apart from
one another, so that a look-up may stop at the first range that starts too high.
-/

namespace LootRules.Text

/-- Closed ranges of code points, ascending and apart. -/
abbrev CodeRanges := List (Nat × Nat)

/-- Whether one of the ranges holds the code point. -/
def CodeRanges.covers : CodeRanges → Nat → Bool
  | [], _ => false
  | (first, last) :: rest, n => first ≤ n && (n ≤ last || covers rest n)

end LootRules.Text
