import LootRules.Text
import LootRules.Text.CaseTable

/-!
# Lower case

Item names and titles are compared in lower case, by the full rules of Unicode: a few
letters become several characters, and the Greek sigma has a second form at the end of a
word. `lower` applies them to a text.

Lowering leaves no ASCII capital and is settled after one application; both follow from
closed facts about the table.
-/

namespace LootRules.Text

/-- Whether the character has case. -/
def isCased (c : Char) : Bool := casedRanges.covers c.toNat

/-- Whether the character is passed over when a neighbour with case is sought. -/
def isCaseIgnorable (c : Char) : Bool := caseIgnorableRanges.covers c.toNat

/-- The lower-case counterpart of a code point beyond ASCII, or the code point itself. -/
def lowerCode : List CaseRun → Nat → Nat
  | [], n => n
  | run :: runs, n =>
    if n < run.first then n
    else if n ≤ run.last && (n - run.first) % run.step = 0 then ((n : Int) + run.shift).toNat
    else lowerCode runs n

/-- The lower-case form of a character that does not depend on its neighbours. The capital I
with a dot keeps its dot as a mark of its own. -/
def lowerChar (c : Char) : Text :=
  if c.toNat < 0x80 then [c.toLower]
  else if c = 'İ' then ['i', '\u0307']
  else [Char.ofNat (lowerCode lowerRuns c.toNat)]

/-- Whether the first character that is not passed over has case. -/
def casedNext (s : Text) : Bool := (s.dropWhile isCaseIgnorable).head?.any isCased

/-- Lowers a text. `afterCased` says whether, going back from here, the first character that
is not passed over has case. A capital sigma is final when it follows such a character and
none follows it. -/
def lowerAfter (afterCased : Bool) : Text → Text
  | [] => []
  | c :: s =>
    (if c = 'Σ' then [if afterCased && !casedNext s then 'ς' else 'σ'] else lowerChar c) ++
      lowerAfter (if isCaseIgnorable c then afterCased else isCased c) s

/-- The text in lower case. -/
def lower (s : Text) : Text := lowerAfter false s

end LootRules.Text
