import LootRules.Editor.Basic

/-!
# Typing

Putting in characters and line breaks, and deleting them one at a time or to the end of the
line. A line break is deleted by joining two lines, which is refused when the result would
be too long.
-/

namespace LootRules.Editor

/-- Puts in a character before the cursor. -/
def insertChar (e : Editor) (c : Char) : Editor :=
  if e.limits.maxLineLength ≤ e.width then e.refuse
  else
    { e with col := e.col + 1 }.edit
      (e.lines.set e.row (Text.insertAtColumn e.col c e.line)) (.line e.row)

/-- Breaks the line at the cursor. -/
def breakLine (e : Editor) : Editor :=
  if e.limits.maxLines ≤ e.document.size then e.refuse
  else
    { e with row := e.row + 1, col := 0 }.edit
      (e.lines.take e.row ++
        Text.beforeColumn e.col e.line :: Text.fromColumn e.col e.line ::
          e.lines.drop (e.row + 1))
      .everything

/-- Deletes what is before the cursor: a cluster, or at the start of a line the break before it.
Also says whether there was something that could be deleted. -/
def deleteBack (e : Editor) : Editor × Bool :=
  if 0 < e.col then
    ({ e with col := e.col - 1 }.edit
      (e.lines.set e.row (Text.eraseColumns (e.col - 1) e.col e.line)) (.line e.row), true)
  else if e.row = 0 then (e, false)
  else
    let above := e.document.line (e.row - 1)
    if e.limits.maxLineLength < Text.columns above + e.width then (e.refuse, false)
    else
      ({ e with row := e.row - 1, col := Text.columns above }.edit
        (e.lines.take (e.row - 1) ++ (above ++ e.line) :: e.lines.drop (e.row + 1))
        .everything, true)

/-- The editor with the cursor one step on, over a cluster or a line break, unless it is at the
very end. -/
def stepForward? (e : Editor) : Option Editor :=
  if e.col < e.width then some { e with col := e.col + 1 }
  else if e.row < e.document.lastRow then some { e with row := e.row + 1, col := 0 }
  else none

/-- Deletes what is behind the cursor: a cluster, or at the end of a line the break behind it.
Also says whether there was something that could be deleted; if not, the cursor stays. -/
def deleteForward (e : Editor) : Editor × Bool :=
  match e.stepForward? with
  | none => (e, false)
  | some next =>
    match next.deleteBack with
    | (done, true) => (done, true)
    | (refused, false) => ({ refused with row := e.row, col := e.col }, false)

/-- Deletes the rest of the line, or at its end the break behind it, and adds what was deleted
to the yank buffer. -/
def killLine (e : Editor) : Editor :=
  if e.col < e.width then
    { e with yank := e.yank.pushText (Text.fromColumn e.col e.line) }.edit
      (e.lines.set e.row (Text.beforeColumn e.col e.line)) (.line e.row)
  else
    match e.deleteForward with
    | (done, true) => { done with yank := done.yank.pushBreak }
    | (refused, false) => refused

end LootRules.Editor
