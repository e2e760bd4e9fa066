import LootRules.Inspector.Settings

/-!
# Arguments of the inspector

What a single argument of the command line asks for: help or the version, colours, a setting
with or without its value, or a source. A single dash is standard input, which is read
anyway, and two dashes end the options.
-/

namespace LootRules

/-- What an argument asks for. A value may stand in the argument itself, behind an equals
sign. -/
inductive Argument where
  | help
  | version
  | color (on : Bool)
  | set (setting : Setting) (value : Option Text)
  | endOfOptions
  | standardInput
  | path
  | unknown
  deriving DecidableEq, Repr

namespace Argument

/-- The name of an option and the value given with it. Only long options take one. -/
def splitValue (argument : Text) : Text × Option Text :=
  match Text.splitFirst '=' argument with
  | (option, some value) =>
    if "--".toList.isPrefixOf option then (option, some value) else (argument, none)
  | (_, none) => (argument, none)

/-- The setting that an option names. -/
def setting? (option : Text) : Option Setting :=
  if option = "-e".toList then some .expression
  else
    [.race, .profession, .realm1, .realm2, .name, .level, .gold, .expression].find?
      fun setting => Setting.option setting = option

/-- What an argument asks for. -/
def ofText (argument : Text) : Argument :=
  let (option, value) := splitValue argument
  if option = "-h".toList || option = "--help".toList then .help
  else if option = "-V".toList || option = "--version".toList then .version
  else if option = "--color".toList then .color true
  else if option = "--no-color".toList then .color false
  else if option = "--".toList then .endOfOptions
  else
    match setting? option with
    | some setting => .set setting value
    | none =>
      if argument = ['-'] then .standardInput
      else if argument.head? = some '-' then .unknown
      else .path

end Argument

end LootRules
