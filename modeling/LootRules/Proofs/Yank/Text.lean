import LootRules.Proofs.Editor.FlatText
import LootRules.Proofs.Yank

/-!
# The text of a yank buffer

The same text can be held by a yank buffer in several ways: a line break behind the last segment,
or an empty segment more; no segments, with a line break behind them or without. Whichever of them
it is, what is put behind the buffer stands behind its text. So a yank buffer is a text to which
text and line breaks are added, and pushes in a row come out one after another.

With a final break the text is that of whole lines, and without it that of lines with breaks
between neighbours (`text_of_break`, `text_of_no_break`). No segments are no case of their own.
-/

namespace LootRules.Yank

/-- What is put behind a yank buffer. -/
inductive Push where
  | span (text : Text)
  | lineBreak
  deriving DecidableEq

/-- What is done to a yank buffer. -/
inductive Change where
  | clear
  | setLines (lines : List Text)
  | setSpan (text : Text)
  | push (what : Push)
  deriving DecidableEq

/-- The text that is put behind a yank buffer. -/
def Push.text : Push → Text
  | .span text => text
  | .lineBreak => ['\n']

/-- What a change makes of a text. -/
def Change.onText (before : Text) : Change → Text
  | .clear => []
  | .setLines lines => Text.unlines lines
  | .setSpan text => text
  | .push what => before ++ what.text

/-- A yank buffer with more behind it. -/
def push (y : Yank) : Push → Yank
  | .span text => y.pushText text
  | .lineBreak => y.pushBreak

/-- A yank buffer after a change. -/
def change (y : Yank) : Change → Yank
  | .clear => {}
  | .setLines lines => ofLines lines
  | .setSpan text => ofSpan text
  | .push what => y.push what

/-- With a break behind the last segment every segment is a line. -/
theorem text_of_break {y : Yank} (h : y.endsWithBreak = true) :
    y.text = Text.unlines y.segments := by
  by_cases empty : y.segments = []
  · simp [text, empty, Text.unlines]
  · simp [text, empty, h, Text.unlines_of_ne_nil empty]

/-- Without a break behind the last segment breaks are only between segments. -/
theorem text_of_no_break {y : Yank} (h : y.endsWithBreak = false) :
    y.text = Text.join y.segments := by
  by_cases empty : y.segments = []
  · simp [text, empty, Text.join]
  · simp [text, empty, h]

/-- Text is put behind the text of a buffer. -/
theorem text_pushText (y : Yank) (text : Text) : (y.pushText text).text = y.text ++ text := by
  cases ends : y.endsWithBreak with
  | true =>
    rw [text_of_break ends, pushText, ends, if_pos rfl, text_of_no_break rfl,
      Text.join_append _ (List.cons_ne_nil text []), Text.join_singleton]
  | false =>
    rw [text_of_no_break ends, pushText, ends, if_neg Bool.false_ne_true, text_of_no_break rfl]
    rcases List.eq_nil_or_concat y.segments with empty | ⟨rest, last, concat⟩
    · simp [empty, extendLast, Text.join]
    · simp only [concat, List.concat_eq_append, extendLast_concat, List.append_assoc,
        Text.join_append _ (List.cons_ne_nil _ []), Text.join_singleton]

/-- A line break is put behind the text of a buffer. -/
theorem text_pushBreak (y : Yank) : y.pushBreak.text = y.text ++ ['\n'] := by
  cases ends : y.endsWithBreak with
  | true =>
    simp only [text_of_break ends, pushBreak, ends, Bool.or_true, if_true]
    rw [text_of_break rfl, Text.unlines_concat, List.nil_append]
  | false =>
    rw [text_of_no_break ends, pushBreak, ends, Bool.or_false]
    by_cases empty : y.segments = []
    · simp [empty, text, Text.join]
    · rw [if_neg (by simpa using empty), text_of_break rfl, Text.unlines_of_ne_nil empty]

/-- A change does to the text of a buffer what it does to any text. -/
theorem text_change (y : Yank) (c : Change) : (y.change c).text = c.onText y.text := by
  cases c with
  | clear => rfl
  | setLines lines => exact text_of_break rfl
  | setSpan text => exact (text_of_no_break rfl).trans (Text.join_singleton text)
  | push what =>
    cases what with
    | span text => exact y.text_pushText text
    | lineBreak => exact y.text_pushBreak

/-- Changes one after another do so too. -/
theorem text_foldl_change (y : Yank) (changes : List Change) :
    (changes.foldl change y).text = changes.foldl Change.onText y.text := by
  induction changes generalizing y with
  | nil => rfl
  | cons c changes ih => rw [List.foldl_cons, List.foldl_cons, ih, text_change]

/-- What is pushed comes out in the same order. -/
theorem text_foldl_push (y : Yank) (pushes : List Push) :
    (pushes.foldl push y).text = y.text ++ pushes.flatMap Push.text := by
  induction pushes generalizing y with
  | nil => exact (List.append_nil y.text).symm
  | cons what pushes ih =>
    rw [List.foldl_cons, ih, List.flatMap_cons, ← List.append_assoc]
    exact congrArg (· ++ _) (y.text_change (.push what))

/-- However a yank buffer has come about, its text is what the same changes make of the empty text,
any further change does to the text what it says, and after clearing, the text is all that is pushed
in order. -/
theorem text_after (changes : List Change) :
    let y := changes.foldl change {}
    y.text = changes.foldl Change.onText [] ∧
      (∀ c : Change, (y.change c).text = c.onText y.text) ∧
      ∀ pushes : List Push, (pushes.foldl push (y.change .clear)).text = pushes.flatMap Push.text :=
  ⟨text_foldl_change {} changes, text_change _, text_foldl_push {}⟩

end LootRules.Yank
