import LootRules.Rule.OfItem
import LootRules.RuleSet

/-!
# Sessions

A session is what a player's game keeps of a rule file: the active rules, the facts about
the player that conditions see, and the item destroyed last. Items can be registered for
destruction. A registered item gets a rule of its own, and the session says which lines to
append to the file; the first time these open the block of registered items.
-/

namespace LootRules

/-- The line that opens the block of registered items. -/
def registerHeader : Text := "?:$AUTOREGISTER"

/-- The comment above the block of registered items. -/
def registerWarning : List Text :=
  ["# *Warning!* The lines below will be deleted later.",
   "# Keep it by cut & paste if you need these lines for future characters."]

/-- What came of registering an item. -/
inductive Registration where
  /-- A rule destroys the item already. -/
  | alreadyDestroyed
  /-- A rule wants something else done with the item. -/
  | refused
  /-- A rule was added, and these lines belong at the end of the file. -/
  | added (lines : List Text)
  deriving DecidableEq, Repr

/-- What a game keeps of a rule file. -/
structure Session where
  player : Player
  rules : RuleSet
  lastDestroyed : Option Item := none
  deriving DecidableEq

namespace Session

/-- A session over the text of a rule file. Whether items have been registered is read off the
file. -/
def start (text : Text) (player : Player) : Session :=
  let player := { player with autoregister := (Text.lines text).any (· = registerHeader) }
  { player, rules := RuleSet.ofText player text }

/-- Remembers an item as the one destroyed last. -/
def recordDestroyed (s : Session) (item : Item) : Session := { s with lastDestroyed := some item }

/-- The rule that destroys an item under a name, without showing it on the map. -/
def destroyRule (item : Item) (name : Text) : Rule :=
  { Rule.ofItem item (Text.lower name) with action := Action.single false .destroy }

/-- Registers an item for destruction under a name, unless a rule covers it already. -/
def register (s : Session) (item : Item) (name : Text) : Session × Registration :=
  match s.rules.find? item name with
  | some (_, rule) => (s, if rule.action.destroy then .alreadyDestroyed else .refused)
  | none =>
    let rule := destroyRule item name
    let opening := if s.player.autoregister then [] else registerWarning ++ [registerHeader]
    ({ player := { s.player with autoregister := true }
       rules := s.rules.push rule
       lastDestroyed := some item },
     .added (opening ++ [rule.render]))

end Session

end LootRules
