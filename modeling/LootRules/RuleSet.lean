import LootRules.Player
import LootRules.Rule.Parse
import LootRules.Rule.Render
import LootRules.Rule.Select

/-!
# Rule sets

The rules of a file that are active for a player, in the order of the file. The first rule
that selects an item decides what happens to it, so order matters and later rules never
override earlier ones.
-/

namespace LootRules

/-- The active rules of a file, in order. -/
structure RuleSet where
  rules : List Rule := []
  deriving DecidableEq, Inhabited

namespace RuleSet

/-- What starts a line that includes another file. Included files are not read. -/
def includePrefix : Text := "%:"

/-- The rules on lines, `off` saying whether the condition above them is false. Empty lines,
comments and included files are passed over, and so are lines that are no rules. A condition
switches all lines below it, up to the next one. -/
def activeRules (player : Player) (off : Bool) : List Text → List Rule
  | [] => []
  | line :: lines =>
    if line.isEmpty || line.head? = some '#' then activeRules player off lines
    else
      match Condition.ofLine? line with
      | some condition => activeRules player (Condition.isFalse (player.eval condition)) lines
      | none =>
        if includePrefix.isPrefixOf line || off then activeRules player off lines
        else (Rule.parse line false).toList ++ activeRules player off lines

/-- The active rules among lines. -/
def ofLines (player : Player) (lines : List Text) : RuleSet := ⟨activeRules player false lines⟩

/-- The active rules of a file. -/
def ofText (player : Player) (text : Text) : RuleSet := ofLines player (Text.lines text)

/-- The set with a rule added at the end. -/
def push (s : RuleSet) (r : Rule) : RuleSet := ⟨s.rules ++ [r]⟩

/-- The first rule that selects an item under a name, with its position. -/
def find? (s : RuleSet) (item : Item) (name : Text) : Option (Nat × Rule) :=
  (s.rules.zipIdx.find? fun (r, _) => r.selects item (Text.lower name)).map Prod.swap

end RuleSet

end LootRules
