import LootRules.Editor.Basic

/-!
# Searching

A search goes from the row after the cursor to the end of the document, or from the row
before it to the start, and looks for a text or for the rule that selects an item. It stops
at the first hit on a line that is switched on. Only if there is none does it go to the
first hit on a line that is switched off.
-/

namespace LootRules

/-- Where a search ended. -/
inductive SearchResult where
  /-- The first hit is on a line that is switched on. -/
  | found (row col : Nat)
  /-- Hits on lines that are switched off came first. -/
  | foundAfterInactive (row col : Nat)
  /-- All hits are on lines that are switched off; this is the first. -/
  | foundOnlyInactive (row col : Nat)
  | nothing
  deriving DecidableEq, Repr

namespace SearchResult

/-- Where the cursor goes. -/
def position? : SearchResult → Option (Nat × Nat)
  | found row col | foundAfterInactive row col | foundOnlyInactive row col => some (row, col)
  | nothing => none

/-- What the player is told. -/
def status? : SearchResult → Option Status
  | found _ _ => none
  | foundAfterInactive _ _ => some .skippedInactive
  | foundOnlyInactive _ _ => some .foundOnlyInactive
  | nothing => some .notFound

end SearchResult

/-- The column at which a line is hit, if it is. A text is sought on lines other than
conditions; an item, among the rules that select it. -/
def SearchTarget.hit? (line : Text) (state : LineState) : SearchTarget → Option Nat
  | .text needle =>
    if state.expression then none else (Text.before? needle line).map Text.columns
  | .item sought =>
    (Rule.parse line false).bind fun rule =>
      if rule.selects sought sought.matchName then some 0 else none

namespace Document

/-- The rows of the document, from the first. -/
def rows (d : Document) : List (Nat × Text × LineState) :=
  (d.lines.zip d.states).zipIdx.map fun (entry, row) => (row, entry)

/-- Looks through rows in the given order, `skipped` being the first hit so far on a line that
is switched off. -/
def searchRows (target : SearchTarget) (skipped : Option (Nat × Nat)) :
    List (Nat × Text × LineState) → SearchResult
  | [] =>
    match skipped with
    | some (row, col) => .foundOnlyInactive row col
    | none => .nothing
  | (row, line, state) :: rest =>
    match target.hit? line state with
    | none => searchRows target skipped rest
    | some col =>
      if state.bypass then searchRows target (skipped.or (some (row, col))) rest
      else if skipped.isSome then .foundAfterInactive row col
      else .found row col

/-- Searches the rows after a row, or those before it backwards. -/
def search (d : Document) (target : SearchTarget) (forward : Bool) (row : Nat) : SearchResult :=
  searchRows target none (if forward then d.rows.drop (row + 1) else (d.rows.take row).reverse)

end Document

namespace Editor

/-- Searches on for what was sought last. -/
def search (e : Editor) (forward : Bool) : Editor :=
  match e.target with
  | none => { e with status := some .noSearchTarget }
  | some target =>
    let result := e.document.search target forward e.row
    let (row, col) := result.position?.getD (e.row, e.col)
    { e with status := result.status?, row, col }

/-- Starts a search forward. -/
def searchFor (e : Editor) (target : Option SearchTarget) : Editor :=
  { e with target }.search true

/-- Goes on with the item destroyed last, if there is one. -/
def withDestroyed (e : Editor) (act : Editor → Item → Editor) : Editor :=
  match e.lastDestroyed with
  | some item => act e item
  | none => { e with status := some .nothingDestroyed }

end Editor

end LootRules
