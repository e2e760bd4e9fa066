import LootRules.Proofs.Editor.Rewriting
import LootRules.Proofs.Editor.Rows
import LootRules.Proofs.Editor.View

/-!
# Commands on rows that have to be there

Here the commands are written once more as a program that changes its lines in place: every
row is looked up, every range is cut out and every difference is taken in the order in which
such a program does it, and there is no result as soon as one of them does not exist.

In an editor with the rows of cursor and mark in the document, and with a state for every line,
that never happens, and what comes out is what the commands come to: so the program has no
failing access and computes the same. How a line is read, as a rule or as a condition, does not
depend on its row, and is taken over as it is.

Rows and columns are words of a machine, and most sums are of what is held in its memory, which
is far from being too much for a word. The rows that are visible at once are not held in memory.
Their number is a setting, and can be so large that a page further on is no word. So for the sums
of paging and of scrolling it matters how the program is built, and whether a page fits.
-/

namespace LootRules.Editor

/-- The rows of the cursor and of the mark are rows of the document, and every line has a
state. -/
structure Ready (e : Editor) : Prop extends WellFormed e where
  aligned : e.document.Aligned

/-- An editor whose rows are in the document has lines. -/
theorem WellFormed.lines_ne_nil {e : Editor} (h : e.WellFormed) : e.lines ≠ [] :=
  List.ne_nil_of_length_pos (Nat.zero_lt_of_lt h.row_lt)

/-- The row of the cursor has a line. -/
theorem WellFormed.getElem?_lines {e : Editor} (h : e.WellFormed) :
    e.lines[e.row]? = some e.line :=
  Document.getElem?_lines h.row_lt

namespace Checked

open Machine (Build Computes Stop found)

/-- Works out the states of all lines after a change of them. -/
def edited (e : Editor) (redraw : Redraw) : Option Editor := do
  let (changed, document) ← e.document.refresh? e.player
  let done := { e with document, changed := true }.touch redraw
  some (if changed then done.touch .everything else done)

variable {e : Editor}

/-- Puts in a character before the cursor. -/
def insertChar (e : Editor) (c : Char) : Option Editor := do
  let line ← e.lines[e.row]?
  if e.limits.maxLineLength ≤ Text.columns line then some e.refuse
  else
    let document ← e.document.setLine? e.row (Text.insertAtColumn e.col c line)
    edited { e with document, col := e.col + 1 } (.line e.row)

/-- Breaks the line at the cursor. -/
def breakLine (e : Editor) : Option Editor :=
  if e.limits.maxLines ≤ e.document.size then some e.refuse
  else do
    let line ← e.lines[e.row]?
    let document ← e.document.setLine? e.row (Text.beforeColumn e.col line)
    let document ← document.insertLine? (e.row + 1) (Text.fromColumn e.col line)
    edited { e with document, row := e.row + 1, col := 0 } .everything

/-- A part of a command: the editor after it, and whether it did anything. -/
abbrev Step := Editor → Option (Editor × Bool)

/-- One step and then another, if the first did anything. If the second did nothing, the cursor
goes back. -/
def andThen (first second : Step) : Step := fun e => do
  let (f, applied) ← first e
  if applied then
    let (g, applied) ← second f
    some (if applied then g else { g with row := e.row, col := e.col }, applied)
  else some (f, false)

/-- One step or else another. -/
def orElse (first second : Step) : Step := fun e => do
  let (f, applied) ← first e
  if applied then some (f, true) else second f

/-- Deletes what is before the cursor. -/
def deleteBack : Step := fun e =>
  if 0 < e.col then do
    let col ← e.col.psub 1
    let line ← e.lines[e.row]?
    let line ← Text.eraseColumns? col e.col line
    let document ← e.document.setLine? e.row line
    let done ← edited { e with document, col } (.line e.row)
    some (done, true)
  else if e.row = 0 then some (e, false)
  else do
    let row ← e.row.psub 1
    let col := Text.columns (e.document.line row)
    if e.limits.maxLineLength < col + e.width then some (e.refuse, false)
    else
      let document ← e.document.joinLine? e.row
      let done ← edited { e with document, row, col } .everything
      some (done, true)

/-- Moves the cursor one step on. -/
def stepForward : Step := fun e =>
  if e.col < e.width then some ({ e with col := e.col + 1 }, true)
  else do
    let last ← e.document.lastRow?
    if e.row < last then some ({ e with row := e.row + 1, col := 0 }, true)
    else some (e, false)

/-- Deletes what is behind the cursor. -/
def deleteForward : Step := andThen stepForward deleteBack

/-- Deletes the rest of the line and adds it to the yank buffer. -/
def killRest : Step := fun e =>
  if e.width ≤ e.col then some (e, false)
  else do
    let line ← e.lines[e.row]?
    let short ← Text.eraseColumns? e.col (Text.columns line) line
    let document ← e.document.setLine? e.row short
    let yank := e.yank.pushText (Text.fromColumn e.col line)
    let done ← edited { e with document, yank } (.line e.row)
    some (done, true)

/-- Adds a line break to the yank buffer. -/
def yankBreak : Step := fun e => some ({ e with yank := e.yank.pushBreak }, true)

/-- Deletes the rest of the line, or the break behind it. -/
def killLine : Step := orElse killRest (andThen deleteForward yankBreak)

/-- Puts in lines above the cursor. -/
def insertLines (e : Editor) (lines : List Text) (row col : Nat) : Option Editor :=
  if e.limits.maxLines < e.document.size + lines.length then some e.refuse
  else do
    let document ← e.document.insertLines? e.row lines
    edited { e with document, row := e.row + row, col } .everything

/-- Goes back to the saved text. -/
def revert (e : Editor) : Option Editor := do
  let (_, document) ← (Document.unread e.saved).refresh? e.player
  some ({ e with document, row := 0, col := 0, top := 0, mark := none, changed := false }.touch
    .everything)

/-- The text of a region, as it is pasted. -/
def regionYank (e : Editor) : Region → Option Yank
  | .rows first last => do
    let lines ← e.document.linesBetween? first last
    some (.ofLines lines)
  | .span row first last => do
    let span ← Text.betweenColumns? first last (e.document.line row)
    some (.ofSpan span)

/-- Copies the region and clears the mark. -/
def copy (e : Editor) : Option Editor := do
  let yank ← regionYank e e.region
  some ({ e with yank, col := if e.mark.isNone then 0 else e.col, mark := none }.touch .everything)

/-- Copies the region and deletes it. -/
def cut (e : Editor) : Option Editor := do
  let copied ← copy e
  match e.region with
  | .rows first last =>
    let document ← copied.document.clearRows? first (last + 1 - first)
    edited { copied with document, row := first, col := 0 } .everything
  | .span row first last =>
    let line ← copied.lines[row]?
    let line ← Text.eraseColumns? first last line
    let document ← copied.document.setLine? row line
    edited { copied with document, col := first } .everything

/-- Puts in the yank buffer at the cursor. -/
def paste (e : Editor) : Option Editor :=
  if e.yank.isEmpty then some e
  else do
    let between ← e.yank.segments.length.psub 1
    let breaks := between + e.yank.endsWithBreak.toNat
    if e.limits.maxLines < e.document.size + breaks then some e.refuse
    else
      let begun := prependFirst (Text.beforeColumn e.col e.line) (pieces e.yank)
      let col := Text.columns (begun.getLast?.getD [])
      let document ← e.document.spliceLines? e.row
        (Yank.extendLast (Text.fromColumn e.col e.line) begun)
      edited { e with document, row := e.row + breaks, col } .everything

/-- Sees to it that there is a row below the cursor, if there can be one. -/
def withRowBelow : Step := fun e => do
  let last ← e.document.lastRow?
  if e.row < last then some (e, true)
  else if e.line.isEmpty || e.limits.maxLines ≤ e.document.size then some (e, false)
  else
    let document ← e.document.insertLine? e.document.size []
    let (_, document) ← document.refresh? e.player
    some ({ e with document }.touch .everything, true)

/-- Moves the cursor. -/
def move (build : Build) (e : Editor) (motion : Motion) : Except Stop Editor := do
  let last ← found e.document.lastRow?
  match motion with
  | .left =>
    if 0 < e.col then
      let col ← found (e.col.psub 1)
      .ok { e with col }
    else if 0 < e.row then
      let row ← found (e.row.psub 1)
      .ok { e with row, col := e.document.columns row }
    else .ok e
  | .right =>
    if e.col < e.width then .ok { e with col := e.col + 1 }
    else
      let (e, below) ← found (withRowBelow e)
      .ok (if below then { e with row := e.row + 1, col := 0 } else e)
  | .up => .ok { e with row := e.row - 1 }
  | .down =>
    let (e, below) ← found (withRowBelow e)
    .ok (if below then { e with row := e.row + 1 } else e)
  | .lineStart => .ok { e with col := 0 }
  | .lineEnd => .ok { e with col := e.width }
  | .pageUp => .ok { e with row := e.row - e.height, top := e.top - e.height }
  | .pageDown =>
    let row ← build.sum e.row e.height
    let top ← build.sum e.top e.height
    .ok { e with row := min row last, top := min top last }
  | .top => .ok { e with row := 0, col := 0 }
  | .bottom => .ok { e with row := last, col := 0 }

variable {build : Build}

/-- Moves the visible part as little as is needed to show the cursor. -/
def scrollToCursor (build : Build) (e : Editor) : Except Stop Editor :=
  if e.row < e.top then .ok { e with top := e.row }
  else do
    let below ← build.sum e.top e.height
    if below ≤ e.row then
      let top ← build.difference (e.row + 1) e.height
      .ok { e with top }
    else .ok e

/-- The column at which a line is hit, if it is. -/
def hit (line : Text) (state : LineState) : SearchTarget → Option (Option Nat)
  | .text needle =>
    if state.expression then some none
    else
      match Text.before? needle line with
      | none => some none
      | some before => do
        let col ← Text.columnAt? before.length line
        some (some col)
  | .item sought => some ((SearchTarget.item sought).hit? line state)

/-- Where a line is hit there is a column. -/
theorem hit_eq (line : Text) (state : LineState) (target : SearchTarget) :
    hit line state target = some (target.hit? line state) := by
  cases target with
  | item sought => rfl
  | text needle =>
    rw [hit, SearchTarget.hit?]
    split
    · rfl
    · cases found : Text.before? needle line with
      | none => rfl
      | some before =>
        simp only [Text.columnAt?_of_before? found]
        rfl

/-- Looks through rows in the given order. -/
def searchRows (target : SearchTarget) (skipped : Option (Nat × Nat)) :
    List (Nat × Text × LineState) → Option SearchResult
  | [] =>
    match skipped with
    | some (row, col) => some (.foundOnlyInactive row col)
    | none => some .nothing
  | (row, line, state) :: rest => do
    let place ← hit line state target
    match place with
    | none => searchRows target skipped rest
    | some col =>
      if state.bypass then searchRows target (skipped.or (some (row, col))) rest
      else if skipped.isSome then some (.foundAfterInactive row col)
      else some (.found row col)

/-- Looking through rows comes to an end. -/
theorem searchRows_eq (target : SearchTarget) (skipped : Option (Nat × Nat))
    (rows : List (Nat × Text × LineState)) :
    searchRows target skipped rows = some (Document.searchRows target skipped rows) := by
  induction rows generalizing skipped with
  | nil => cases skipped <;> rfl
  | cons entry rows ih =>
    obtain ⟨row, line, state⟩ := entry
    rw [searchRows, Document.searchRows, hit_eq, Option.bind_eq_bind, Option.bind_some]
    cases target.hit? line state with
    | none => exact ih skipped
    | some col =>
      dsimp only
      split
      · exact ih _
      · split <;> rfl

/-- Searches on for what was sought last. -/
def search (e : Editor) (forward : Bool) : Option Editor :=
  match e.target with
  | none => some { e with status := some .noSearchTarget }
  | some target => do
    let rows := e.document.rows
    let result ← searchRows target none
      (if forward then rows.drop (e.row + 1) else (rows.take e.row).reverse)
    let (row, col) := result.position?.getD (e.row, e.col)
    some { e with status := result.status?, row, col }

/-- Starts a search forward. -/
def searchFor (e : Editor) (target : Option SearchTarget) : Option Editor :=
  search { e with target } true

/-- Goes on with the item destroyed last, if there is one. -/
def withDestroyed (e : Editor) (act : Editor → Item → Option Editor) : Option Editor :=
  match e.lastDestroyed with
  | some item => act e item
  | none => some { e with status := some .nothingDestroyed }

/-- Searching finds the column of a hit. -/
theorem search_eq (e : Editor) (forward : Bool) : search e forward = some (e.search forward) := by
  rw [search, Editor.search]
  cases e.target with
  | none => rfl
  | some target =>
    simp only [searchRows_eq]
    rfl

/-- Toggles a part of the action on the cursor's line. -/
def toggleAction (e : Editor) (mask : Action) : Option Editor :=
  match Rule.parse e.line false with
  | none => some e
  | some rule =>
    match rule.action.toggle? mask with
    | none => some e
    | some action => do
      let line := { rule with action }.render
      let document ← e.document.setLine? e.row line
      edited { e with document, col := e.col + Text.columns line - e.width } (.line e.row)

/-- Toggles a flag on the lines between mark and cursor. -/
def toggleKeyword (e : Editor) (f : Flag) : Option Editor := do
  let (first, last) := e.blockRows
  let (adding, document) ← e.document.toggleRows? f none first (last + 1 - first)
  if adding.isSome then edited { e with document } .everything else some { e with document }

/-- What a command does to the editor by itself. -/
def run (build : Build) (e : Editor) : Command → Except Stop Editor
  | .quitDiscard | .quitSave | .help => .ok e
  | .revert => found (revert e)
  | .move motion => move build e motion
  | .cut => found (cut e)
  | .copy => found (copy e)
  | .paste => found (paste e)
  | .toggleMark => .ok e.toggleMark
  | .killLine => found ((killLine e).map Prod.fst)
  | .deleteChar => found ((deleteForward e).map Prod.fst)
  | .backspace => found ((deleteBack e).map Prod.fst)
  | .breakLine => found (breakLine e)
  | .insertChar c => found (insertChar e c)
  | .searchText needle => found (searchFor e (if needle.isEmpty then none else some (.text needle)))
  | .searchForward => found (search e true)
  | .searchBackward => found (search e false)
  | .searchItem item => found (searchFor e (some (.item item)))
  | .searchDestroyed => found (withDestroyed e fun e item => searchFor e (some (.item item)))
  | .insertItem item => found (insertLines e [(Rule.ofItem item item.matchName).render] 0 0)
  | .insertDestroyed =>
    found (withDestroyed e fun e item =>
      let rule := Rule.ofItem item item.matchName
      insertLines e [{ rule with action := rule.action.withPolicy .destroy }.render] 0 0)
  | .insertConditional => found (insertLines e [playerCondition e.player, "?:1"] 1 0)
  | .insertMacro trigger action =>
    found (insertLines e ["P:".toList ++ trigger, "A:".toList ++ action] 1 2)
  | .insertKeymap mode key action =>
    found (insertLines e
      ["C:".toList ++ Text.decimal mode ++ ':' :: key, "A:".toList ++ action] 1 2)
  | .toggleAction mask => found (toggleAction e mask)
  | .toggleKeyword flag => found (toggleKeyword e flag)

/-- Carries out a command. -/
def apply (build : Build) (e : Editor) (command : Command) : Except Stop (Editor × Outcome) := do
  let before := e.prepare command
  let done ← run build before command
  let after ← scrollToCursor build done
  let moved : Bool :=
    before.top ≠ after.top ||
      (after.mark.isSome && (before.row, before.col) ≠ (after.row, after.col))
  .ok (if moved then after.touch .everything else after, outcome command)

/-- What a command by itself comes to, with no matter which row of the document for a page down. -/
inductive RunsTo (e : Editor) : Command → Editor → Prop
  | run (command : Command) : RunsTo e command (e.run command)
  | page {row : Nat} (top : Nat) (inside : row < e.document.size) :
      RunsTo e (.move .pageDown) { e with row, top }

/-- A page that does not fit stops a checked build as soon as it is added to the last row. A
wrapping build goes on, and the cursor is then above the visible rows. -/
example :
    let e := start ["rings".toList, "boots".toList] {} { pageRows := Machine.wordSize - 1 }
    apply .checked e (.move .pageDown) = .error .overflow ∧
      (apply .wrapping e (.move .pageDown)).map (fun done => (done.1.row, done.1.top)) =
        .ok (1, 3) := by
  decide +kernel

/-- A cursor below the last row is found out. -/
example : apply .wrapping { start ["boots".toList] {} {} with row := 1 } (.insertChar '!') =
    .error .access := by
  decide +kernel

/-- So is a mark there, as soon as the rows up to it are to be cut. -/
example : apply .wrapping { start ["boots".toList] {} {} with mark := some (1, 0) } .cut =
    .error .access := by
  decide +kernel

end Checked

end LootRules.Editor
