import LootRules.RuleSet

/-!
# How a line reads

The inspector tells for every line of a file what the rule reader makes of it, and whether
the condition above switches it off. A condition is shown with its value, a rule with its
canonical form.
-/

namespace LootRules

/-- How a line reads for a player. -/
inductive Verdict where
  | blank
  | comment
  /-- A condition with its value, and whether that switches the lines below off. -/
  | condition (value : Text) (off : Bool)
  /-- A rule with its canonical line, and whether it is switched off. -/
  | rule (canonical : Text) (off : Bool)
  /-- Another kind of preference, or text that is no rule. -/
  | opaqueLine (off : Bool)
  deriving DecidableEq, Repr

namespace Verdict

/-- Whether nothing is known of the line. -/
def isOpaque : Verdict → Bool
  | opaqueLine _ => true
  | _ => false

/-- How lines read, `off` saying whether the condition above them is false. -/
def classifyAfter (player : Player) (off : Bool) : List Text → List Verdict
  | [] => []
  | line :: lines =>
    if line.isEmpty then blank :: classifyAfter player off lines
    else if line.head? = some '#' then comment :: classifyAfter player off lines
    else
      match Condition.ofLine? line with
      | some text =>
        let value := player.eval text
        let off := Condition.isFalse value
        condition value off :: classifyAfter player off lines
      | none =>
        let verdict :=
          if isForeign line then opaqueLine off
          else
            match Rule.parse line false with
            | some r => rule r.render off
            | none => opaqueLine off
        verdict :: classifyAfter player off lines

/-- How the lines of a file read. -/
def classify (player : Player) (lines : List Text) : List Verdict :=
  classifyAfter player false lines

end Verdict

end LootRules
