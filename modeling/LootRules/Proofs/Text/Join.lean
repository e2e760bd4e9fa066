import LootRules.Text.Column

/-!
# Cutting and joining lines

Lines with a line feed between neighbours are one text. Around any of the lines it has the
lines above, each with its line feed behind it, and the lines below, each with its line feed
before it. Within the line, a column cuts it in two, and the next column is one cluster on.
-/

namespace LootRules.Text

/-- Lines with a line feed between neighbours. -/
def join (lines : List Text) : Text := List.intercalate ['\n'] lines

/-- Lines with a line feed before each. -/
def below (lines : List Text) : Text := lines.flatMap ('\n' :: ·)

/-- A line with more lines behind it has them below. -/
theorem join_cons (line : Text) (lines : List Text) :
    join (line :: lines) = line ++ below lines := by
  induction lines generalizing line with
  | nil => exact List.intercalate_singleton.trans (List.append_nil line).symm
  | cons next lines ih =>
    have step : join (line :: next :: lines) = line ++ ['\n'] ++ join (next :: lines) :=
      List.intercalate_cons_cons
    rw [step, ih, below, below, List.flatMap_cons, List.append_assoc]
    rfl

/-- One line is its own text. -/
theorem join_singleton (line : Text) : join [line] = line := List.intercalate_singleton

/-- The lines below a line are one text behind a line feed. -/
theorem below_of_ne_nil {lines : List Text} (h : lines ≠ []) :
    below lines = '\n' :: join lines := by
  obtain ⟨line, rest, rfl⟩ := List.exists_cons_of_ne_nil h
  rw [join_cons, below, List.flatMap_cons]
  rfl

/-- Lines in front of others are above them. -/
theorem join_append {lines : List Text} (above : List Text) (h : lines ≠ []) :
    join (above ++ lines) = unlines above ++ join lines := by
  induction above with
  | nil => rfl
  | cons line above ih =>
    have more : above ++ lines ≠ [] := List.append_ne_nil_of_right_ne_nil above h
    rw [List.cons_append, join_cons, below_of_ne_nil more, ih, unlines]
    simp only [List.append_assoc, List.cons_append]

/-- A text is what is above a line, the line, and what is below it. -/
theorem join_append_cons (above : List Text) (line : Text) (rest : List Text) :
    join (above ++ line :: rest) = unlines above ++ (line ++ below rest) := by
  rw [join_append above (List.cons_ne_nil line rest), join_cons]

/-- Lines above one more line. -/
theorem unlines_concat (lines : List Text) (line : Text) :
    unlines (lines ++ [line]) = unlines lines ++ (line ++ ['\n']) := by
  induction lines with
  | nil => rfl
  | cons first lines ih =>
    rw [List.cons_append, unlines, ih, unlines]
    simp only [List.append_assoc, List.cons_append]

/-- Lines with a line feed behind each are one text with a line feed behind it. -/
theorem unlines_of_ne_nil {lines : List Text} (h : lines ≠ []) :
    unlines lines = join lines ++ ['\n'] := by
  rcases List.eq_nil_or_concat lines with empty | ⟨above, last, rfl⟩
  · exact absurd empty h
  · rw [List.concat_eq_append, unlines_concat, join_append above (List.cons_ne_nil last []),
      join_singleton, List.append_assoc]

/-- The lines down to a row are those above it and the row itself. -/
theorem take_add_one {lines : List Text} {row : Nat} (h : row < lines.length) :
    lines.take (row + 1) = lines.take row ++ [lines.getD row []] := by
  rw [List.take_add_one, List.getD_eq_getElem?_getD, List.getElem?_eq_getElem h]
  rfl

/-- A row stands between the lines above it and those below it. -/
theorem eq_take_append_drop {lines : List Text} {row : Nat} (h : row < lines.length) :
    lines = lines.take row ++ lines.getD row [] :: lines.drop (row + 1) := by
  rw [List.getD_eq_getElem?_getD, List.getElem?_eq_getElem h, Option.getD_some,
    ← List.drop_eq_getElem_cons h, List.take_append_drop]

/-- The text between two neighbouring columns is a cluster. -/
theorem beforeColumn_add_one {col : Nat} {s : Text} (h : col < columns s) :
    beforeColumn (col + 1) s = beforeColumn col s ++ (clusters s).getD col [] := by
  rw [beforeColumn, beforeColumn, List.take_add_one, List.flatten_append,
    List.getD_eq_getElem?_getD, List.getElem?_eq_getElem h]
  exact congrArg _ (List.append_nil _)

/-- Behind the last column nothing is left. -/
theorem fromColumn_of_le {col : Nat} {s : Text} (h : columns s ≤ col) : fromColumn col s = [] := by
  rw [fromColumn, List.drop_eq_nil_of_le h]
  rfl

/-- The whole line is before its last column, and all columns behind that. -/
theorem beforeColumn_of_le {col : Nat} {s : Text} (h : columns s ≤ col) :
    beforeColumn col s = s := by
  have whole := beforeColumn_append_fromColumn col s
  rw [fromColumn_of_le h, List.append_nil] at whole
  exact whole

end LootRules.Text
