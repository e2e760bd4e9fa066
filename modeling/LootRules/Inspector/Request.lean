import LootRules.Inspector.Argument
import LootRules.Inspector.Report
import LootRules.RuleFile

/-!
# Requests to the inspector

The command line says what to inspect and for which player. Arguments are read from left to
right, and the first that is wrong, or that asks for help or the version, settles the
matter. What is to be done then is a `Request`; what comes of it, an `Output`.
-/

namespace LootRules

/-- What a program hands back. -/
structure Output where
  code : UInt32 := 0
  out : Text := []
  err : Text := []
  deriving DecidableEq

/-- What a command line asks for. -/
inductive Request where
  | showHelp
  | showVersion
  | inspect (settings : Settings)
  deriving DecidableEq

namespace Request

/-- Reads arguments from left to right. -/
def readArguments (s : Settings) : List Text → Except ArgumentError Request
  | [] => .ok (.inspect s)
  | argument :: rest =>
    match Argument.ofText argument with
    | .help => .ok .showHelp
    | .version => .ok .showVersion
    | .color on => readArguments { s with colored := on } rest
    | .endOfOptions =>
      match rest with
      | [] => .ok (.inspect s)
      | path :: _ => (s.setInput path).map .inspect
    | .standardInput => readArguments s rest
    | .path =>
      match s.setInput argument with
      | .ok s => readArguments s rest
      | .error e => .error e
    | .unknown => .error (.unknownOption argument)
    | .set setting value =>
      match s.admits setting with
      | .error e => .error e
      | .ok () =>
        match value, rest with
        | some value, rest =>
          match s.set setting value with
          | .ok s => readArguments s rest
          | .error e => .error e
        | none, [] => .error (.missingValue setting.option)
        | none, value :: rest =>
          match s.set setting value with
          | .ok s => readArguments s rest
          | .error e => .error e
termination_by arguments => arguments.length

/-- The name and the version of the program. -/
def version : String := "autopick 0.4.0"

/-- How to use the program. -/
def help : List Text :=
  [version,
   "",
   "Autopick rule file inspector.",
   "",
   "Usage:",
   "  autopick [OPTIONS] [FILE]",
   "  autopick [OPTIONS] --expr <expression>",
   "",
   "Reads a rule file (stdin when FILE is omitted or '-') and prints how each line",
   "reads for the given character: rules with their canonical form, ?: conditions",
   "with their value, and which lines are switched off.",
   "",
   "Options:",
   "  --race <name>              Character race.       Default: Human",
   "  --class <name>             Character class.      Default: Warrior",
   "  --level <n>                Character level.      Default: 1",
   "  --realm1 <name>            First magic realm.",
   "  --realm2 <name>            Second magic realm.",
   "  --name <name>              Character name.",
   "  --gold <n>                 Gold carried.",
   "  -e, --expr <expression>    Evaluate one expression, print its value, exit.",
   "  --color                    Force ANSI color output.",
   "  --no-color                 Disable ANSI color output.",
   "  -h, --help                 Show this help message.",
   "  -V, --version              Print version information.",
   "",
   "Environment:",
   "  AUTOPICK_LOG               Log filter for diagnostics on stderr. Default: warn",
   "",
   "Exit codes:",
   "  0  Success.",
   "  1  The rule file could not be read.",
   "  2  Invalid arguments.",
   ""].map String.toList

/-- The report on a source, from what reading it came to. -/
def report (s : Settings) (contents : Except FileFault ByteArray) : Output :=
  match RuleFile.load {} s.source.name contents with
  | .ok lines => { out := Text.unlines (Report.lines s.colored s.source.name s.player lines) }
  | .error e => { code := 1, err := Text.unlines ["error: ".toList ++ e.message] }

/-- What comes of a command line: an output, or settings under which a source is still to be
read. -/
def ofArguments (colored : Bool) (arguments : List Text) : Output ⊕ Settings :=
  match readArguments { colored } arguments with
  | .error e => .inl { code := 2, err := Text.unlines [e.message] }
  | .ok .showHelp => .inl { out := Text.unlines help }
  | .ok .showVersion => .inl { out := Text.unlines [version.toList] }
  | .ok (.inspect s) =>
    match s.expression with
    | some expression => .inl { out := Text.unlines [s.player.eval expression] }
    | none => .inr s

end Request

end LootRules
