import LootRules.Editor.Region

/-!
# Toggling parts of rules

Rules can be changed without typing: the policy or the map switch of the cursor's line, and
a keyword on all lines between mark and cursor. The lines are read, changed and written in
their canonical form.
-/

namespace LootRules

namespace Action

/-- The action with one part toggled. A mask of one policy switches to that policy, or back to
picking up; a mask of the map switch alone turns it over. Any other mask is no part. -/
def toggle? (a mask : Action) : Option Action :=
  match mask.display, mask.policies with
  | true, [] => some { a with display := !a.display }
  | false, [p] => some (a.withPolicy (if a.policy? = some p then .pickup else p))
  | _, _ => none

end Action

namespace Rule

/-- The rule with a flag put in or taken out, and without the others of its group. -/
def setFlag (r : Rule) (f : Flag) (add : Bool) : Rule :=
  let flags := match f.group with
    | some g => r.flags.eraseGroup g
    | none => r.flags
  { r with flags := if add then flags.insert f else flags.erase f }

end Rule

/-- Toggles a flag on lines. The first line that is a rule, where an empty one counts, decides
whether the flag is put in or taken out; `adding` is that decision once it has been taken.
Lines that are no rules stay as they are. -/
def toggleLines (f : Flag) (adding : Option Bool) : List Text → Option Bool × List Text
  | [] => (adding, [])
  | line :: lines =>
    match Rule.parse line adding.isNone with
    | none =>
      let (decided, lines) := toggleLines f adding lines
      (decided, line :: lines)
    | some rule =>
      let add := adding.getD (!rule.flags.contains f)
      let (decided, lines) := toggleLines f (some add) lines
      (decided, (rule.setFlag f add).render :: lines)

namespace Editor

/-- Toggles a part of the action on the cursor's line. The cursor keeps its distance from the
end of the line. -/
def toggleAction (e : Editor) (mask : Action) : Editor :=
  match Rule.parse e.line false with
  | none => e
  | some rule =>
    match rule.action.toggle? mask with
    | none => e
    | some action =>
      let line := { rule with action }.render
      { e with col := e.col + Text.columns line - e.width }.edit
        (e.lines.set e.row line) (.line e.row)

/-- Toggles a flag on the lines between mark and cursor. -/
def toggleKeyword (e : Editor) (f : Flag) : Editor :=
  let (first, last) := e.blockRows
  match toggleLines f none ((e.lines.drop first).take (last + 1 - first)) with
  | (none, _) => e
  | (some _, lines) =>
    e.edit (e.lines.take first ++ lines ++ e.lines.drop (last + 1)) .everything

end Editor

end LootRules
