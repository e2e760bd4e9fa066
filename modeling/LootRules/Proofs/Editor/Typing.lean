import Mathlib.Data.List.Induction
import LootRules.Proofs.Editor.FlatText
import LootRules.Proofs.Editor.Redraw
import LootRules.Proofs.Text.Clusters
import LootRules.Proofs.Text.Lines

/-!
# Typing

Every keystroke puts its character in at the cursor and moves the cursor one column on. The cursor
is then right behind the character if this is a cluster by itself, or if nothing is behind it in its
line. Otherwise it is not: a mark that joins the letter before it, or a letter that is joined by
what is behind it, takes no column of its own, the cursor has gone one cluster too far, and what is
typed next is put in there. So the cursor stays right behind what is typed just if every character
but the last stands alone where it is put in, or if the text is typed at the end of a line, and then
the text is typed in one piece. No other line ever changes.
-/

namespace LootRules.Editor

instance (e : Editor) (command : Command) : Decidable (e.Refuses command) :=
  inferInstanceAs (Decidable (_ = _))

/-- The editor after a text has been typed. -/
def typeText (e : Editor) (t : Text) : Editor := e.applyAll (t.map .insertChar)

/-- No character of a text is refused when it is typed. -/
def Accepts (e : Editor) : Text → Prop
  | [] => True
  | c :: t => ¬ e.Refuses (.insertChar c) ∧ (e.apply (.insertChar c)).1.Accepts t

/-- Typing a text is typing its first character and then the rest. -/
theorem typeText_cons (e : Editor) (c : Char) (t : Text) :
    e.typeText (c :: t) = (e.apply (.insertChar c)).1.typeText t := rfl

/-- A text can be typed in two parts. -/
theorem typeText_append (e : Editor) (s t : Text) :
    e.typeText (s ++ t) = (e.typeText s).typeText t := by
  induction s generalizing e with
  | nil => rfl
  | cons c s ih => exact ih _

/-- Of a text that is accepted, both parts are. -/
theorem Accepts.of_append {e : Editor} {s t : Text} (h : e.Accepts (s ++ t)) :
    e.Accepts s ∧ (e.typeText s).Accepts t := by
  induction s generalizing e with
  | nil => exact ⟨trivial, h⟩
  | cons c s ih =>
    obtain ⟨first, rest⟩ := ih h.2
    exact ⟨⟨h.1, first⟩, rest⟩

/-- Typing leads to an editor that can be reached. -/
theorem Reachable.typeText {e : Editor} (h : e.Reachable) (t : Text) :
    (e.typeText t).Reachable := by
  induction t generalizing e with
  | nil => exact h
  | cons c t ih => exact ih (h.apply (.insertChar c))

/-- A character that is not refused is put in at the cursor, which goes one column on. -/
theorem apply_insertChar {e : Editor} (row : e.row < e.document.size) {c : Char}
    (accepted : ¬ e.Refuses (.insertChar c)) :
    let typed := (e.apply (.insertChar c)).1
    typed.row = e.row ∧ typed.col = e.cursor.2 + 1 ∧
      typed.lines = e.lines.set e.row (Text.insertAtColumn e.cursor.2 c e.line) := by
  have room : ¬ e.limits.maxLineLength ≤ e.width := by
    intro full
    refine accepted ?_
    rw [Refuses, apply_eq, prepare_eq]
    exact congrArg status (if_pos full)
  have written : (e.lines.set e.row (Text.insertAtColumn e.cursor.2 c e.line)) ≠ [] := by
    refine List.ne_nil_of_length_pos ?_
    rw [List.length_set]
    exact Nat.zero_lt_of_lt row
  have done : (e.prepare (.insertChar c)).run (.insertChar c) =
      { e.prepare (.insertChar c) with col := e.cursor.2 + 1 }.edit
        (e.lines.set e.row (Text.insertAtColumn e.cursor.2 c e.line)) (.line e.row) := by
    rw [prepare_eq]
    exact if_neg room
  rw [apply_eq]
  dsimp only
  rw [done]
  refine ⟨?_, rfl, lines_ofLines written⟩
  rw [prepare_eq]
  rfl

/-- A line set in the row of the cursor is the line of that row. -/
theorem line_eq_of_lines {e f : Editor} (inside : e.row < e.document.size) (row : f.row = e.row)
    {line : Text} (lines : f.lines = e.lines.set e.row line) : f.line = line := by
  have within : e.row < e.lines.length := inside
  change f.lines.getD f.row [] = line
  rw [row, lines, List.getD_eq_getElem?_getD, List.getElem?_set_self within]
  rfl

/-- Typing changes no line but that of the cursor. -/
theorem lines_typeText {e : Editor} (h : e.Reachable) {t : Text} (accepted : e.Accepts t) :
    (e.typeText t).row = e.row ∧
      (e.typeText t).lines = e.lines.set e.row (e.typeText t).line := by
  have inside := h.wellFormed.row_lt
  induction t generalizing e with
  | nil =>
    refine ⟨rfl, ?_⟩
    exact (Text.eq_take_append_drop inside).trans (set_eq inside e.line).symm
  | cons c t ih =>
    obtain ⟨row, -, lines⟩ := apply_insertChar inside accepted.1
    have reached := h.apply (.insertChar c)
    obtain ⟨row', lines'⟩ := ih reached accepted.2 reached.wellFormed.row_lt
    rw [typeText_cons, row']
    refine ⟨row, ?_⟩
    rw [row, lines, List.set_set] at lines'
    exact lines'

/-- The cursor is between two texts that make up its line. -/
def Between (e : Editor) (before behind : Text) : Prop :=
  e.line = before ++ behind ∧ Text.beforeColumn e.cursor.2 e.line = before

/-- The cursor is where it is seen. -/
theorem between_cursor (e : Editor) :
    e.Between (Text.beforeColumn e.cursor.2 e.line) (Text.fromColumn e.cursor.2 e.line) :=
  ⟨(Text.beforeColumn_append_fromColumn _ _).symm, rfl⟩

namespace Between

variable {e : Editor} {before behind : Text} {c : Char}

/-- The column of the cursor counts the clusters before it. -/
theorem columns_eq (h : e.Between before behind) : Text.columns before = e.cursor.2 := by
  rw [← h.2]
  exact Text.columns_beforeColumn (Nat.min_le_right e.col e.width)

/-- A character is typed between the texts. -/
theorem line_apply (h : e.Between before behind) (row : e.row < e.document.size)
    (accepted : ¬ e.Refuses (.insertChar c)) :
    (e.apply (.insertChar c)).1.line = before ++ c :: behind := by
  obtain ⟨same, -, lines⟩ := apply_insertChar row accepted
  have rest : Text.fromColumn e.cursor.2 e.line = behind := by
    have whole := Text.beforeColumn_append_fromColumn e.cursor.2 e.line
    rw [h.2, h.1] at whole
    rw [h.1]
    exact List.append_cancel_left whole
  rw [line_eq_of_lines row same lines, Text.insertAtColumn, h.2, rest]

/-- The cursor is right behind the character that was typed just if this stands alone or nothing is
behind it. -/
theorem apply_iff (h : e.Between before behind) (row : e.row < e.document.size)
    (accepted : ¬ e.Refuses (.insertChar c)) :
    (e.apply (.insertChar c)).1.Between (before ++ [c]) behind ↔
      behind = [] ∨ Text.StandsAlone before c behind := by
  have line := h.line_apply row accepted
  obtain ⟨-, col, -⟩ := apply_insertChar row accepted
  have seen : (e.apply (.insertChar c)).1.cursor.2 =
      min (Text.columns before + 1) (Text.columns (before ++ c :: behind)) := by
    rw [h.columns_eq, ← col, ← line]
    rfl
  rw [Between, seen, line, Text.beforeColumn_min_columns, Text.beforeColumn_succ_columns_iff,
    List.append_assoc]
  exact and_iff_right rfl

end Between

/-- When a text is typed between two others, every character but the last stands alone where it is
put in, or there is nothing behind. -/
def KeepsPace (before t behind : Text) : Prop :=
  behind = [] ∨ ∀ p c d rest, t = p ++ c :: d :: rest → Text.StandsAlone (before ++ p) c behind

/-- Characters that are clusters by themselves keep pace. -/
theorem keepsPace_of_alone {before t behind : Text}
    (h : ∀ c ∈ before ++ t ++ behind, Text.Alone c) : KeepsPace before t behind := by
  refine .inr fun p c d rest parts => Text.standsAlone_of_alone fun x mem => h x ?_
  subst parts
  simp only [List.mem_append, List.mem_cons] at mem ⊢
  tauto

variable {e : Editor} {before behind t : Text}

/-- Before every character of a text the cursor is right behind those that have been typed, just if
they keep pace. -/
theorem between_typeText_iff (h : e.Reachable) (accepted : e.Accepts t)
    (here : e.Between before behind) :
    (∀ p c rest, t = p ++ c :: rest → (e.typeText p).Between (before ++ p) behind) ↔
      KeepsPace before t behind := by
  -- One keystroke inside the text, from a place right behind what was typed before it.
  have step {p rest : Text} {c : Char} (parts : t = p ++ c :: rest)
      (there : (e.typeText p).Between (before ++ p) behind) :
      (e.typeText (p ++ [c])).Between (before ++ (p ++ [c])) behind ↔
        behind = [] ∨ Text.StandsAlone (before ++ p) c behind := by
    rw [parts] at accepted
    rw [typeText_append, ← List.append_assoc]
    exact there.apply_iff (h.typeText p).wellFormed.row_lt accepted.of_append.2.1
  constructor
  · intro pace
    by_cases last : behind = []
    · exact .inl last
    · refine .inr fun p c d rest parts => ?_
      have next := pace (p ++ [c]) d rest (by rw [parts, List.append_assoc]; rfl)
      exact ((step parts (pace p c (d :: rest) parts)).mp next).resolve_left last
  · intro pace p
    induction p using List.reverseRecOn with
    | nil =>
      intro c rest _
      rw [List.append_nil]
      exact here
    | append_singleton p c ih =>
      intro d rest parts
      rw [List.append_assoc] at parts
      exact (step parts (ih c (d :: rest) parts)).mpr
        (pace.imp_right fun alone => alone p c d rest parts)

/-- A text that keeps pace is typed in one piece. -/
theorem line_typeText (h : e.Reachable) (accepted : e.Accepts t) (here : e.Between before behind)
    (pace : KeepsPace before t behind) : (e.typeText t).line = before ++ t ++ behind := by
  rcases List.eq_nil_or_concat t with rfl | ⟨p, c, rfl⟩
  · rw [List.append_nil]
    exact here.1
  · rw [List.concat_eq_append] at accepted pace ⊢
    have there := (between_typeText_iff h accepted here).mpr pace p c [] rfl
    rw [typeText_append, List.append_assoc before, List.append_assoc p, List.singleton_append,
      ← List.append_assoc]
    exact there.line_apply (h.typeText p).wellFormed.row_lt accepted.of_append.2.1

/-- Typing a text that is not refused changes no line but that of the cursor. If the characters of
the text keep pace, it then stands between what was before the cursor and what was behind it; and
they keep pace just if the cursor is right behind what has been typed before every keystroke. -/
theorem typeText_in_one_piece {e : Editor} (reached : e.Reachable) {t : Text}
    (accepted : e.Accepts t) :
    let before := Text.beforeColumn e.cursor.2 e.line
    let behind := Text.fromColumn e.cursor.2 e.line
    (e.typeText t).row = e.row ∧
      (e.typeText t).lines = e.lines.set e.row (e.typeText t).line ∧
      (KeepsPace before t behind → (e.typeText t).line = before ++ t ++ behind) ∧
      ((∀ p c rest, t = p ++ c :: rest → (e.typeText p).Between (before ++ p) behind) ↔
        KeepsPace before t behind) := by
  intro before behind
  obtain ⟨row, lines⟩ := lines_typeText reached accepted
  exact ⟨row, lines, line_typeText reached accepted e.between_cursor,
    between_typeText_iff reached accepted e.between_cursor⟩

/-- A rule with letters left out, and the cursor where they are missing. -/
def shortened : Editor :=
  (start ["ris".toList, "amulets".toList] {} {}).applyAll [.move .right, .move .right]

/-- The missing letters are typed in one piece. -/
theorem typeText_in_one_piece_shortened :
    let e := shortened
    let t := "ng".toList
    e.Reachable ∧ e.Accepts t ∧ (e.typeText t).lines = ["rings".toList, "amulets".toList] ∧
      (e.typeText "n".toList).Between "rin".toList "s".toList := by
  intro e t
  have reached : e.Reachable := ((Reachable.start _ _ _).apply _).apply _
  have accepted : e.Accepts t := ⟨by decide +kernel, by decide +kernel, trivial⟩
  have before : Text.beforeColumn e.cursor.2 e.line = "ri".toList := by decide +kernel
  have behind : Text.fromColumn e.cursor.2 e.line = "s".toList := by decide +kernel
  have lines : e.lines = ["ris".toList, "amulets".toList] := by decide +kernel
  have row : e.row = 0 := by decide +kernel
  obtain ⟨-, typed, piece, following⟩ := typeText_in_one_piece reached accepted
  rw [before, behind] at piece following
  have pace : KeepsPace "ri".toList t "s".toList := by
    have all : ("ri".toList ++ t ++ "s".toList).all fun c => Text.Alone c := by decide +kernel
    exact keepsPace_of_alone (by simpa only [List.all_eq_true, decide_eq_true_eq] using all)
  refine ⟨reached, accepted, ?_, following.mpr pace ['n'] 'g' [] rfl⟩
  rw [typed, piece pace, lines, row]
  rfl

/-- A letter, an accent for it and another letter, typed before a letter, do not stay together: the
accent takes no column of its own, so the second letter is put in one letter too far. -/
theorem typeText_accent_apart :
    let e := start ["b".toList] {} {}
    let t := "e\u0301x".toList
    e.Reachable ∧ e.Accepts t ∧ Text.Unbroken t ∧
      Text.beforeColumn e.cursor.2 e.line = [] ∧ Text.fromColumn e.cursor.2 e.line = "b".toList ∧
      (e.typeText t).lines = ["e\u0301bx".toList] ∧
      (e.typeText t).line ≠ [] ++ t ++ "b".toList := by
  intro e t
  have accepted : e.Accepts t :=
    ⟨by decide +kernel, by decide +kernel, by decide +kernel, trivial⟩
  exact ⟨.start _ _ _, accepted, by decide, by decide +kernel, by decide +kernel, by decide +kernel,
    by decide +kernel⟩

end LootRules.Editor
