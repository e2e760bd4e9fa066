import LootRules.Text.Cluster

/-!
# Columns

A column of a line is a place between two grapheme clusters. Column 0 is the start of the
line, and the last column its end; a column beyond that counts as the end. The operations
here cut lines at columns. Cutting and joining again changes nothing, but the columns of two
pieces need not add up, since characters that meet at a joint may form one cluster.
-/

namespace LootRules.Text

/-- The number of columns in a line: its number of clusters. -/
def columns (s : Text) : Nat := (clusters s).length

/-- The text before a column. -/
def beforeColumn (col : Nat) (s : Text) : Text := ((clusters s).take col).flatten

/-- The text from a column on. -/
def fromColumn (col : Nat) (s : Text) : Text := ((clusters s).drop col).flatten

/-- The text between two columns. -/
def betweenColumns (first last : Nat) (s : Text) : Text :=
  (((clusters s).take last).drop first).flatten

/-- The line without the text between two columns. -/
def eraseColumns (first last : Nat) (s : Text) : Text := beforeColumn first s ++ fromColumn last s

/-- The line with a character put in at a column. -/
def insertAtColumn (col : Nat) (c : Char) (s : Text) : Text :=
  beforeColumn col s ++ c :: fromColumn col s

/-- A cut at a column loses nothing. -/
theorem beforeColumn_append_fromColumn (col : Nat) (s : Text) :
    beforeColumn col s ++ fromColumn col s = s := by
  rw [beforeColumn, fromColumn, ← List.flatten_append, List.take_append_drop, clusters_flatten]

end LootRules.Text
