import LootRules.Proofs.Text.Borders
import LootRules.Proofs.Text.Clusters
import Mathlib.Data.String.Basic
import Mathlib.Order.Interval.Set.Defs
import Mathlib.Order.Monotone.Defs

/-!
# Columns and bytes

A line in memory is a row of bytes, and a program that cuts it says at which byte. Between the bytes
of one character it cannot be cut at all. So a column has an offset there, the number of bytes
before it, and a byte that can be cut at has a column, the number of clusters in what is before it.

The two agree (`byteOffset_agrees`). The offset of a column can always be cut at, and gives the same
parts as the column; the clusters before it are as many as its number says. A piece between two
columns has as many columns as lie between them, although it is cut into clusters anew, without what
stood before it: the first offset is a border, and no rule looks back across one to any effect.
-/

namespace LootRules.Text

open String (utf8Len)

/-- A text in two parts, the first with so many bytes. There are none if the text ends before, or
if the cut would be inside a character. -/
def splitAtByte? : Nat → Text → Option (Text × Text)
  | 0, s => some ([], s)
  | _ + 1, [] => none
  | n + 1, c :: s =>
    if n + 1 < c.utf8Size then none
    else (splitAtByte? (n + 1 - c.utf8Size) s).map fun cut => (c :: cut.1, cut.2)

/-- The text between two bytes. There is none if it cannot be cut there, or if the bytes are not in
order. -/
def betweenBytes? (first last : Nat) (s : Text) : Option Text := do
  let (before, _) ← splitAtByte? last s
  let (_, between) ← splitAtByte? first before
  return between

/-- The offsets at which texts start, one behind another, the first of them at `offset`. -/
def offsetsFrom (offset : Nat) : List Text → List Nat
  | [] => []
  | s :: rest => offset :: offsetsFrom (offset + utf8Len s) rest

/-- The offset of a column, which is the end of the line for columns beyond. -/
def byteOffset (col : Nat) (s : Text) : Nat := (offsetsFrom 0 (clusters s)).getD col (utf8Len s)

/-- The column that starts at a byte, if the line can be cut there. -/
def columnAtByte? (byte : Nat) (s : Text) : Option Nat :=
  (splitAtByte? byte s).map fun cut => columns cut.1

/-- Behind the bytes of the first of two texts they can be cut apart. -/
theorem splitAtByte?_utf8Len (before behind : Text) :
    splitAtByte? (utf8Len before) (before ++ behind) = some (before, behind) := by
  induction before with
  | nil => rw [List.nil_append, String.utf8Len_nil, splitAtByte?]
  | cons c before ih =>
    have size := c.utf8Size_pos
    obtain ⟨n, full⟩ : ∃ n, utf8Len (c :: before) = n + 1 :=
      ⟨utf8Len (c :: before) - 1, by rw [String.utf8Len_cons]; omega⟩
    have rest : n + 1 - c.utf8Size = utf8Len before := by
      rw [← full, String.utf8Len_cons, Nat.add_sub_cancel]
    have enough : ¬n + 1 < c.utf8Size := by
      rw [← full, String.utf8Len_cons]
      omega
    rw [full, List.cons_append, splitAtByte?, if_neg enough, rest, ih]
    rfl

/-- A text is cut at a byte into the two parts of which the first has so many bytes. -/
theorem splitAtByte?_eq_some_iff {n : Nat} {s before behind : Text} :
    splitAtByte? n s = some (before, behind) ↔ before ++ behind = s ∧ utf8Len before = n := by
  constructor
  · intro cut
    fun_induction splitAtByte? n s generalizing before with
    | case1 s =>
      obtain ⟨rfl, rfl⟩ := Prod.mk.inj (Option.some.inj cut)
      exact ⟨rfl, rfl⟩
    | case2 n => contradiction
    | case3 n c s short => contradiction
    | case4 n c s enough ih =>
      obtain ⟨later, found, same⟩ := Option.map_eq_some_iff.mp cut
      obtain ⟨rfl, rfl⟩ := Prod.mk.inj same
      obtain ⟨whole, size⟩ := ih found
      refine ⟨congrArg (c :: ·) whole, ?_⟩
      rw [String.utf8Len_cons]
      omega
  · rintro ⟨rfl, rfl⟩
    exact splitAtByte?_utf8Len before behind

/-- The offset of a column behind other texts is what they and the clusters before it have in
bytes. -/
theorem getD_offsetsFrom (offset col : Nat) (texts : List Text) :
    (offsetsFrom offset texts).getD col (offset + utf8Len texts.flatten) =
      offset + utf8Len (texts.take col).flatten := by
  induction texts generalizing offset col with
  | nil => simp [offsetsFrom]
  | cons s rest ih =>
    cases col with
    | zero => simp [offsetsFrom]
    | succ col => simpa [offsetsFrom, Nat.add_assoc] using ih (offset + utf8Len s) col

/-- The offset of a column is the number of bytes before it. -/
theorem byteOffset_eq (col : Nat) (s : Text) : byteOffset col s = utf8Len (beforeColumn col s) := by
  have sum := getD_offsetsFrom 0 col (clusters s)
  rw [Nat.zero_add, Nat.zero_add, clusters_flatten] at sum
  exact sum

/-- Cutting a line at the offset of a column is cutting it at the column. -/
theorem splitAtByte?_byteOffset (col : Nat) (s : Text) :
    splitAtByte? (byteOffset col s) s = some (beforeColumn col s, fromColumn col s) :=
  splitAtByte?_eq_some_iff.mpr
    ⟨beforeColumn_append_fromColumn col s, (byteOffset_eq col s).symm⟩

/-- Up to a column there is what is before an earlier one, and what is between the two. -/
theorem beforeColumn_append_betweenColumns {first last : Nat} (order : first ≤ last) (s : Text) :
    beforeColumn first s ++ betweenColumns first last s = beforeColumn last s := by
  have earlier : ((clusters s).take last).take first = (clusters s).take first := by
    rw [List.take_take, Nat.min_eq_left order]
  rw [beforeColumn, betweenColumns, ← List.flatten_append, ← earlier, List.take_append_drop]
  rfl

/-- The text between two columns has the columns between them. -/
theorem columns_betweenColumns (first last : Nat) (s : Text) :
    columns (betweenColumns first last s) = min last (columns s) - first := by
  have same : betweenColumns first last s = fromColumn first (beforeColumn last s) := by
    rw [fromColumn, clusters_beforeColumn]
    rfl
  rw [same, columns, clusters_fromColumn, clusters_beforeColumn, List.length_drop,
    List.length_take]
  rfl

/-- The text between two bytes at which columns start is the text between the columns. -/
theorem betweenBytes?_byteOffset {first last : Nat} (order : first ≤ last) (s : Text) :
    betweenBytes? (byteOffset first s) (byteOffset last s) s =
      some (betweenColumns first last s) := by
  have inner : splitAtByte? (byteOffset first s) (beforeColumn last s) =
      some (beforeColumn first s, betweenColumns first last s) :=
    splitAtByte?_eq_some_iff.mpr
      ⟨beforeColumn_append_betweenColumns order s, (byteOffset_eq first s).symm⟩
  simp only [betweenBytes?, splitAtByte?_byteOffset, Option.bind_eq_bind, Option.bind_some, inner]
  rfl

/-- The column at the offset of a column is that column again, or the last one of the line. -/
theorem columnAtByte?_byteOffset (col : Nat) (s : Text) :
    columnAtByte? (byteOffset col s) s = some (min col (columns s)) := by
  rw [columnAtByte?, splitAtByte?_byteOffset, Option.map_some, columns, clusters_beforeColumn,
    List.length_take]
  rfl

/-- Of two columns in a line, the later one has the greater offset. -/
theorem strictMonoOn_byteOffset (s : Text) :
    StrictMonoOn (fun col => byteOffset col s) (Set.Iic (columns s)) := by
  intro first _ last inside before
  have count := columns_betweenColumns first last s
  rw [Nat.min_eq_left inside] at count
  have something : betweenColumns first last s ≠ [] := by
    intro nothing
    rw [nothing] at count
    exact Nat.ne_of_lt (Nat.sub_pos_of_lt before) count
  change byteOffset first s < byteOffset last s
  rw [byteOffset_eq, byteOffset_eq, ← beforeColumn_append_betweenColumns (Nat.le_of_lt before),
    String.utf8Len_append]
  exact Nat.lt_add_of_pos_right (Nat.pos_of_ne_zero (mt String.utf8Len_eq_zero.mp something))

/-- The offset of a column is where a character starts, or the end of the line. -/
theorem isValid_byteOffset (col : Nat) (s : Text) :
    String.Pos.Raw.IsValid (String.ofList s) ⟨byteOffset col s⟩ := by
  refine String.Pos.Raw.isValid_iff_exists_append.mpr
    ⟨String.ofList (beforeColumn col s), String.ofList (fromColumn col s), ?_, ?_⟩
  · rw [← String.ofList_append, beforeColumn_append_fromColumn]
  · rw [String.rawEndPos_ofList, byteOffset_eq]

/-- The offsets of columns are those at which the rules put a border. -/
theorem exists_byteOffset_iff (before behind : Text) :
    (∃ col, byteOffset col (before ++ behind) = utf8Len before) ↔ Border before behind := by
  rw [← exists_beforeColumn_iff]
  refine exists_congr fun col => ⟨fun same => ?_, fun same => ?_⟩
  · have cut := splitAtByte?_byteOffset col (before ++ behind)
    rw [same, splitAtByte?_utf8Len] at cut
    exact (Prod.mk.inj (Option.some.inj cut)).1.symm
  · rw [byteOffset_eq, same]

/-- Columns of a line and offsets in its bytes go together. Every column has an offset at which the
line can be cut, into the same parts, and which has that column; the offsets start at zero, grow
with the columns, end with the line, and are the borders that the rules put there. A line falls into
what is before a column, what is between it and a later one, and the rest, and the piece in the
middle has the columns in between. -/
theorem byteOffset_agrees (s : Text) :
    (∀ col, columnAtByte? (byteOffset col s) s = some (min col (columns s))) ∧
      StrictMonoOn (fun col => byteOffset col s) (Set.Iic (columns s)) ∧
      byteOffset 0 s = 0 ∧ byteOffset (columns s) s = (String.ofList s).utf8ByteSize ∧
      (∀ col, String.Pos.Raw.IsValid (String.ofList s) ⟨byteOffset col s⟩) ∧
      (∀ before behind, before ++ behind = s →
        ((∃ col, byteOffset col s = utf8Len before) ↔ Border before behind)) ∧
      (∀ col, splitAtByte? (byteOffset col s) s = some (beforeColumn col s, fromColumn col s)) ∧
      ∀ first last, first ≤ last →
        betweenBytes? (byteOffset first s) (byteOffset last s) s =
            some (betweenColumns first last s) ∧
          beforeColumn first s ++ betweenColumns first last s ++ fromColumn last s = s ∧
          columns (betweenColumns first last s) = min last (columns s) - min first (columns s) := by
  refine ⟨fun col => columnAtByte?_byteOffset col s, strictMonoOn_byteOffset s,
    byteOffset_eq 0 s, ?_, fun col => isValid_byteOffset col s, ?_,
    fun col => splitAtByte?_byteOffset col s, fun first last order => ⟨?_, ?_, ?_⟩⟩
  · rw [byteOffset_eq, beforeColumn_of_le (Nat.le_refl _), String.utf8ByteSize_ofList]
  · rintro before behind rfl
    exact exists_byteOffset_iff before behind
  · exact betweenBytes?_byteOffset order s
  · rw [beforeColumn_append_betweenColumns order, beforeColumn_append_fromColumn]
  · rw [columns_betweenColumns]
    omega

/-- Two flags behind a letter with its accent: the second regional indicator joins the first, and
the third is at a border. -/
theorem byteOffset_agrees_flags :
    let line : Text := "e\u0301🇩🇪🇫🇷!".toList
    let start : Text := "e\u0301🇩🇪".toList
    (start ++ "🇫🇷!".toList = line ∧ ∃ col, byteOffset col line = utf8Len start) ∧
      1 ≤ 3 ∧
      betweenBytes? (byteOffset 1 line) (byteOffset 3 line) line = some "🇩🇪🇫🇷".toList ∧
      columns "🇩🇪🇫🇷".toList = 2 := by
  intro line start
  obtain ⟨-, -, -, -, -, borders, -, pieces⟩ := byteOffset_agrees line
  have border : Border start "🇫🇷!".toList := by decide +kernel
  have flags : betweenColumns 1 3 line = "🇩🇪🇫🇷".toList := by decide +kernel
  have width : columns line = 4 := by decide +kernel
  obtain ⟨cut, -, count⟩ := pieces 1 3 (by decide)
  rw [flags] at cut count
  rw [width] at count
  exact ⟨⟨rfl, (borders start _ rfl).mpr border⟩, by decide, cut, count⟩

end LootRules.Text
