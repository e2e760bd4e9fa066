import LootRules.Inspector.Verdict

/-!
# The report of the inspector

The report on a rule file has four parts: a title, the player, the lines as they read, and a
count. It may be coloured for a terminal; without colours it is the same text.
-/

namespace LootRules

/-- The ways of setting off text on a terminal. -/
inductive Style where
  | bold | dim | green | yellow | blue | cyan | gray
  deriving DecidableEq, Repr

namespace Style

/-- The number that selects the style in a control sequence. -/
def code : Style → Nat
  | bold => 1 | dim => 2 | green => 32 | yellow => 33 | blue => 34 | cyan => 36 | gray => 90

/-- A control sequence that selects a style; 0 selects plain text. -/
def sequence (code : Nat) : Text := '\x1b' :: '[' :: Text.decimal code ++ ['m']

/-- Text in a style, or plain text if there are no colours. -/
def paint (colored : Bool) (style : Style) (text : Text) : Text :=
  if colored then sequence style.code ++ text ++ sequence 0 else text

end Style

namespace Report

/-- The heading of a part. -/
def heading (colored : Bool) (title : Text) : List Text :=
  [[], Style.gray.paint colored ("━━━ ".toList ++ title ++ " ━━━".toList)]

/-- A fact with its label. -/
def fact (colored : Bool) (label value : Text) : Text :=
  "  ".toList ++ Style.dim.paint colored (label ++ [':']) ++ ' ' :: Style.blue.paint colored value

/-- The facts about the player. Realms are left out if there are none. -/
def playerLines (colored : Bool) (player : Player) : List Text :=
  (fact colored "race" player.race ++ fact colored "class" player.profession ++
      fact colored "level" (Text.decimal player.level.toNat)) ::
    if player.realm1.isEmpty && player.realm2.isEmpty then []
    else [fact colored "realm1" player.realm1 ++ fact colored "realm2" player.realm2]

/-- What is shown of a line behind its number. -/
def verdictText (colored : Bool) (line : Text) : Verdict → Text
  | .blank => []
  | .comment => ' ' :: Style.dim.paint colored line
  | .condition value off =>
    ' ' :: Style.cyan.paint colored line ++ ' ' :: Style.dim.paint colored "→" ++
      ' ' :: Style.bold.paint colored value ++
      ' ' :: if off then Style.yellow.paint colored "off" else Style.green.paint colored "on"
  | .rule canonical off =>
    ' ' :: (if off then Style.dim else Style.green).paint colored line ++
      if canonical = line then []
      else
        ' ' :: Style.dim.paint colored "│ canonical:" ++ ' ' :: Style.blue.paint colored canonical
  | .opaqueLine off =>
    ' ' :: (if off then Style.dim.paint colored line else line) ++
      ' ' :: Style.yellow.paint colored "(opaque)"

/-- A line of the file with its number and how it reads. -/
def fileLine (colored : Bool) (row : Nat) (line : Text) (verdict : Verdict) : Text :=
  "  ".toList ++ Style.gray.paint colored (Text.rightAligned 4 (row + 1)) ++
    verdictText colored line verdict

/-- The counts at the end. -/
def summary (colored : Bool) (player : Player) (lines : List Text) : Text :=
  let hidden := (Verdict.classify player lines).countP Verdict.isOpaque
  let active := (RuleSet.ofLines player lines).rules.length
  "  Lines: ".toList ++ Style.blue.paint colored (Text.decimal lines.length) ++
    "  │  Active rules: ".toList ++ Style.green.paint colored (Text.decimal active) ++
    "  │  Opaque: ".toList ++ Style.dim.paint colored (Text.decimal hidden)

/-- The report on the lines of a file. -/
def lines (colored : Bool) (source : Text) (player : Player) (lines : List Text) : List Text :=
  [[], Style.bold.paint colored (Style.cyan.paint colored ("⚙  Rules: ".toList ++ source))] ++
    heading colored "Context" ++ playerLines colored player ++
    heading colored "Lines" ++
    ((lines.zip (Verdict.classify player lines)).zipIdx.map fun ((line, verdict), row) =>
      fileLine colored row line verdict) ++
    heading colored "Summary" ++ [summary colored player lines, []]

end Report

end LootRules
