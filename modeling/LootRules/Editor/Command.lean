import LootRules.Editor.Motion
import LootRules.Editor.Search
import LootRules.Editor.Toggle
import LootRules.Editor.Typing

/-!
# Commands

Everything a player can do in the editor is a command, and `apply` carries one out. Around
the command itself it keeps the order of things: kills add up only when they follow one
another, commands that edit text drop the mark, the cursor is always visible afterwards, and
a moving selection or view is drawn anew.
-/

namespace LootRules

/-- What a player can do. -/
inductive Command where
  | quitDiscard
  | quitSave
  | revert
  | help
  | move (motion : Motion)
  | cut
  | copy
  | paste
  | toggleMark
  | killLine
  | deleteChar
  | backspace
  | breakLine
  | insertChar (c : Char)
  | searchText (needle : Text)
  | searchForward
  | searchBackward
  | searchItem (item : Item)
  | searchDestroyed
  /-- Puts in the rule of an item above the cursor. -/
  | insertItem (item : Item)
  /-- Puts in a rule that destroys the item destroyed last. -/
  | insertDestroyed
  /-- Puts in a condition that holds for the player. -/
  | insertConditional
  | insertMacro (trigger action : Text)
  | insertKeymap (mode : Nat) (key action : Text)
  | toggleAction (mask : Action)
  | toggleKeyword (flag : Flag)
  deriving DecidableEq

/-- What is to be done outside the editor after a command. -/
inductive Outcome where
  | proceed
  | quit (save : Bool)
  | showHelp
  deriving DecidableEq, Repr

namespace Command

/-- Whether the command edits text, and so drops the mark. -/
def clearsMark : Command → Bool
  | paste | killLine | deleteChar | backspace | breakLine | insertChar _ | insertItem _
  | insertDestroyed | insertConditional | insertMacro _ _ | insertKeymap _ _ _ => true
  | _ => false

/-- Whether the command leaves the column of the cursor alone. -/
def keepsColumn : Command → Bool
  | move motion => motion.isVertical
  | _ => false

end Command

namespace Editor

/-- Puts in lines above the cursor, which then goes to a row and column counted from the first
of them. -/
def insertLines (e : Editor) (lines : List Text) (row col : Nat) : Editor :=
  if e.limits.maxLines < e.document.size + lines.length then e.refuse
  else
    { e with row := e.row + row, col }.edit
      (e.lines.take e.row ++ lines ++ e.lines.drop e.row) .everything

/-- A condition that asks for the race, the profession and at least the level of a player. -/
def playerCondition (player : Player) : Text :=
  "?:[AND [EQU $RACE ".toList ++ player.race ++ "] [EQU $CLASS ".toList ++ player.profession ++
    "] [GEQ $LEVEL ".toList ++ player.levelText ++ "]]".toList

/-- Sets the mark at the cursor, or clears it. -/
def toggleMark (e : Editor) : Editor :=
  match e.mark with
  | some _ => { e with mark := none }.touch .everything
  | none => { e with mark := some (e.row, e.col) }.touch (.line e.row)

/-- What a command does to the editor by itself. -/
def run (e : Editor) : Command → Editor
  | .quitDiscard | .quitSave | .help => e
  | .revert => e.revert
  | .move motion => e.move motion
  | .cut => e.cut
  | .copy => e.copy
  | .paste => e.paste
  | .toggleMark => e.toggleMark
  | .killLine => e.killLine
  | .deleteChar => e.deleteForward.1
  | .backspace => e.deleteBack.1
  | .breakLine => e.breakLine
  | .insertChar c => e.insertChar c
  | .searchText needle => e.searchFor (if needle.isEmpty then none else some (.text needle))
  | .searchForward => e.search true
  | .searchBackward => e.search false
  | .searchItem item => e.searchFor (some (.item item))
  | .searchDestroyed => e.withDestroyed fun e item => e.searchFor (some (.item item))
  | .insertItem item => e.insertLines [(Rule.ofItem item item.matchName).render] 0 0
  | .insertDestroyed =>
    e.withDestroyed fun e item =>
      let rule := Rule.ofItem item item.matchName
      e.insertLines [{ rule with action := rule.action.withPolicy .destroy }.render] 0 0
  | .insertConditional => e.insertLines [playerCondition e.player, "?:1"] 1 0
  | .insertMacro trigger action =>
    e.insertLines ["P:".toList ++ trigger, "A:".toList ++ action] 1 2
  | .insertKeymap mode key action =>
    e.insertLines
      ["C:".toList ++ Text.decimal mode ++ ':' :: key, "A:".toList ++ action] 1 2
  | .toggleAction mask => e.toggleAction mask
  | .toggleKeyword flag => e.toggleKeyword flag

/-- What comes before a command: a run of kills starts with an empty buffer, the cursor comes
back into its line, and the mark goes if the command edits text. -/
def prepare (e : Editor) (command : Command) : Editor :=
  let kills : Bool := command = .killLine
  let e :=
    { e with
      yank := if kills && !e.killing then {} else e.yank
      killing := kills
      col := if command.keepsColumn then e.col else e.cursor.2 }
  if command.clearsMark && e.mark.isSome then { e with mark := none }.touch .everything else e

/-- What is to be done outside after a command. -/
def outcome : Command → Outcome
  | .quitDiscard => .quit false
  | .quitSave => .quit true
  | .help => .showHelp
  | _ => .proceed

/-- Carries out a command. -/
def apply (e : Editor) (command : Command) : Editor × Outcome :=
  let before := e.prepare command
  let after := (before.run command).scrollToCursor
  let moved : Bool :=
    before.top ≠ after.top ||
      (after.mark.isSome && (before.row, before.col) ≠ (after.row, after.col))
  (if moved then after.touch .everything else after, outcome command)

end Editor

end LootRules
