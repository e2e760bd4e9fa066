import LootRules.Condition

/-!
# The player

The facts about a character and its surroundings that conditions can ask for. A session
takes them as they are when it starts.
-/

namespace LootRules

/-- What conditions can ask for. -/
structure Player where
  race : Text := "Human"
  profession : Text := "Warrior"
  level : UInt32 := 1
  /-- The first realm of magic; empty if the profession has none. -/
  realm1 : Text := []
  realm2 : Text := []
  name : Text := "PLAYER"
  gold : UInt64 := 0
  /-- The rule file has a block of registered items. -/
  autoregister : Bool := false
  system : Text := "gcu"
  keyboard : Text := "ENGLISH"
  graphics : Text := "ascii"
  monochrome : Bool := false
  deriving DecidableEq

namespace Player

/-- A level is written with two digits at least. -/
def levelText (p : Player) : Text := Text.zeroPadded 2 p.level.toNat

/-- An amount of gold is written with nine digits at least. -/
def goldText (p : Player) : Text := Text.zeroPadded 9 p.gold.toNat

/-- The name as one word: what would end a word becomes an underscore. -/
def wordName (p : Player) : Text :=
  p.name.map fun c => if c = ' ' || c = '[' || c = ']' then '_' else c

/-- The value of a variable, named without its dollar sign. -/
def resolve (p : Player) (name : Text) : Text :=
  if name = "SYS".toList then p.system
  else if name = "KEYBOARD".toList then p.keyboard
  else if name = "GRAF".toList then p.graphics
  else if name = "MONOCHROME".toList then if p.monochrome then "ON" else "OFF"
  else if name = "RACE".toList then p.race
  else if name = "CLASS".toList then p.profession
  else if name = "PLAYER".toList then p.wordName
  else if name = "REALM1".toList then p.realm1
  else if name = "REALM2".toList then p.realm2
  else if name = "LEVEL".toList then p.levelText
  else if name = "AUTOREGISTER".toList then Condition.truth p.autoregister
  else if name = "MONEY".toList then p.goldText
  else Condition.unknown

/-- The value of a condition for this player. -/
def eval (p : Player) (condition : Text) : Text := Condition.eval p.resolve condition

end Player

end LootRules
