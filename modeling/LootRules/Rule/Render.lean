import LootRules.Rule.Parse

/-!
# Writing a rule line

Every rule has one canonical line: the marks, the keywords of its flags in the order of the
table, the name, and the inscription. The name stands behind a colon when a noun precedes
it, when it is empty and no noun is written, and when it would otherwise be read as
something else than a name.
-/

namespace LootRules

namespace Rule

/-- The marks that write an action. Picking up is written by the absence of a mark, and so
is an action without exactly one policy. -/
def marks (a : Action) : Text :=
  (if a.display then [] else ['(']) ++
    match a.policy? with
    | some .query => [';']
    | some .destroy => ['!']
    | some .leave => ['~']
    | _ => []

/-- The number that goes with a threshold. -/
def number (r : Rule) (f : Flag) : Nat := if f = .moreDice then r.dice else r.bonus

/-- One keyword as the rule writes it. -/
def word (r : Rule) (k : Keyword) : Text :=
  match k.slot with
  | .threshold suffix => k.text ++ ' ' :: Text.decimal (r.number k.flag) ++ suffix
  | _ => k.text

/-- The keywords of the flags that are set, in the order of the table. -/
def keywords (r : Rule) : List Keyword := Keyword.table.filter (·.flag ∈ r.flags)

/-- Whether a word of the noun phrase is written. -/
def hasNounPhrase (r : Rule) : Bool := r.keywords.any fun k => !k.isAdjective

/-- The characters that would be taken for a mark or a separator at the start of a name. -/
def separators : List Char := ['!', '~', ';', '(', ':']

/-- Whether a name would be read as something else if it stood without a colon. -/
def needsColon (name : Text) : Bool :=
  Keyword.startsText name || name.head?.any (· ∈ separators) || isForeign name

/-- The name with what separates it from the keywords. -/
def renderName (r : Rule) : Text :=
  if r.hasNounPhrase then
    if r.name.isEmpty then [] else ':' :: r.name
  else if r.name.isEmpty || needsColon r.name then ':' :: r.name
  else if r.keywords.isEmpty then r.name
  else ' ' :: r.name

/-- The canonical line of a rule. -/
def render (r : Rule) : Text :=
  marks r.action ++ Text.unwords (r.keywords.map r.word) ++ r.renderName ++
    match r.inscription with
    | some text => '#' :: text
    | none => []

end Rule

end LootRules
