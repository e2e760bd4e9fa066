import LootRules.Player

/-!
# Settings of the inspector

A command line sets where the lines to inspect come from, an expression to evaluate instead,
the facts about the player, and colours. Most settings take a value. A number has to be one,
and the source and the expression can be set only once.
-/

namespace LootRules

/-- What is wrong with a command line. -/
inductive ArgumentError where
  | missingValue (option : Text)
  | invalidNumber (option value : Text)
  | unknownOption (argument : Text)
  | repeatedExpression
  | repeatedInput
  deriving DecidableEq, Repr

/-- The error in words. -/
def ArgumentError.message : ArgumentError → Text
  | missingValue option => "error: ".toList ++ option ++ " expects a value".toList
  | invalidNumber option value =>
    "error: invalid ".toList ++ option ++ " '".toList ++ value ++ "' (expected a number)".toList
  | unknownOption argument => "error: unknown option '".toList ++ argument ++ "'".toList
  | repeatedExpression => "error: expression provided multiple times"
  | repeatedInput => "error: input provided multiple times"

/-- Where the lines to inspect come from. -/
inductive Source where
  | standardInput
  | file (path : Text)
  deriving DecidableEq, Repr

/-- The name of a source in the report. -/
def Source.name : Source → Text
  | standardInput => "<stdin>"
  | file path => path

/-- What has been asked for so far. -/
structure Settings where
  source : Source := .standardInput
  expression : Option Text := none
  player : Player := {}
  colored : Bool := false
  deriving DecidableEq

/-- What an option with a value sets. -/
inductive Setting where
  | race | profession | realm1 | realm2 | name | level | gold | expression
  deriving DecidableEq, Repr

/-- The option that sets it. -/
def Setting.option : Setting → Text
  | race => "--race"
  | profession => "--class"
  | realm1 => "--realm1"
  | realm2 => "--realm2"
  | name => "--name"
  | level => "--level"
  | gold => "--gold"
  | expression => "--expr"

namespace Settings

/-- Whether a setting can still be made: there is one expression at most. -/
def admits (s : Settings) (setting : Setting) : Except ArgumentError Unit :=
  if setting = .expression && s.expression.isSome then .error .repeatedExpression else .ok ()

/-- A number given as the value of an option. -/
def number (setting : Setting) (bound : Nat) (value : Text) : Except ArgumentError Nat :=
  match Text.natBelow? bound (Text.trim value) with
  | some n => .ok n
  | none => .error (.invalidNumber setting.option value)

/-- Makes a setting. -/
def set (s : Settings) (setting : Setting) (value : Text) : Except ArgumentError Settings :=
  match setting with
  | .race => .ok { s with player.race := value }
  | .profession => .ok { s with player.profession := value }
  | .realm1 => .ok { s with player.realm1 := value }
  | .realm2 => .ok { s with player.realm2 := value }
  | .name => .ok { s with player.name := value }
  | .level => (number setting UInt32.size value).map fun n => { s with player.level := .ofNat n }
  | .gold => (number setting UInt64.size value).map fun n => { s with player.gold := .ofNat n }
  | .expression => .ok { s with expression := some value }

/-- Takes the lines from a file, unless that has been said before. -/
def setInput (s : Settings) (path : Text) : Except ArgumentError Settings :=
  match s.source with
  | .standardInput => .ok { s with source := .file path }
  | .file _ => .error .repeatedInput

end Settings

end LootRules
