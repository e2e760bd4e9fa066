import LootRules.Action
import LootRules.FlagSet
import LootRules.Text

/-!
# Rules

A rule asks for flags and a name, and says what to do with the items that have them. The
thresholds count only while their flags are set. The name pattern is sought anywhere in an
item's name, or only at its start if the pattern begins with a caret.
-/

namespace LootRules

/-- What to do with which items. -/
structure Rule where
  action : Action := {}
  flags : FlagSet := ∅
  /-- The least product of the dice, for the flag `moreDice`. -/
  dice : Nat := 0
  /-- The least bonus, for the flag `moreBonus`. -/
  bonus : Nat := 0
  /-- The name pattern; the empty pattern is found in every name. -/
  name : Text := []
  /-- What to inscribe on the items. -/
  inscription : Option Text := none
  deriving DecidableEq, Inhabited

/-- The character that ties a name pattern to the start of a name. -/
def Rule.anchor : Char := '^'

/-- Whether the name pattern is tied to the start of the name. -/
def Rule.isAnchored (r : Rule) : Bool := r.name.head? = some Rule.anchor

end LootRules
