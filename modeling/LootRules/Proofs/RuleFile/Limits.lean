import LootRules.Proofs.RuleFile

/-!
# What is wrong with a file

A file can exceed both limits, and is then refused for one of them. The lines are checked in order,
and a line that is one too many ends the check, but its own length is looked at before. So the first
line that is too long is named if it is among the lines that are allowed or is the one behind them.
If it comes later, or if there is none, the number of lines is what is wrong.
-/

namespace LootRules.RuleFile

variable {limits : Limits} {index i : Nat} {line l : Text} {lines : List Text}

/-- Lines are within the limits. -/
structure Fits (limits : Limits) (lines : List Text) : Prop where
  short : ∀ l ∈ lines, l.length ≤ limits.maxLineLength
  few : lines.length ≤ limits.maxLines

/-- The first line that is too long, and the row where it is. -/
structure FirstLong (limits : Limits) (lines : List Text) (i : Nat) (line : Text) : Prop where
  here : lines[i]? = some line
  long : limits.maxLineLength < line.length
  first : ∀ j < i, ∀ l ∈ lines[j]?, l.length ≤ limits.maxLineLength

/-- What the limits say of lines. -/
inductive Judgment (limits : Limits) (lines : List Text) : Except LoadError (List Text) → Prop
  | accepted (fits : Fits limits lines) : Judgment limits lines (.ok lines)
  | lineTooLong {i : Nat} {line : Text} (first : FirstLong limits lines i line)
      (early : i ≤ limits.maxLines) :
      Judgment limits lines (.error (.lineTooLong (i + 1) line.length))
  | tooManyLines (exceeded : ¬ Fits limits lines)
      (late : ∀ i line, FirstLong limits lines i line → limits.maxLines < i) :
      Judgment limits lines (.error (.tooManyLines limits.maxLines))

/-- In front of the first line that is too long stands a line that is not, and behind that the
former is the first. -/
theorem FirstLong.of_succ (h : FirstLong limits (l :: lines) (i + 1) line) :
    l.length ≤ limits.maxLineLength ∧ FirstLong limits lines i line :=
  ⟨h.first 0 (Nat.succ_pos i) l rfl, h.here, h.long,
    fun j before => h.first (j + 1) (Nat.succ_lt_succ before)⟩

/-- If some line is too long, one is the first of them. -/
theorem exists_firstLong (here : lines[i]? = some line)
    (long : limits.maxLineLength < line.length) : ∃ j ≤ i, ∃ l, FirstLong limits lines j l := by
  induction i using Nat.strongRecOn generalizing line with
  | ind i ih =>
    by_cases before : ∃ j < i, ∃ l, lines[j]? = some l ∧ limits.maxLineLength < l.length
    · obtain ⟨j, lt, l, here', long'⟩ := before
      obtain ⟨k, le, first⟩ := ih j lt here' long'
      exact ⟨k, Nat.le_trans le (Nat.le_of_lt lt), first⟩
    · refine ⟨i, Nat.le_refl i, line, here, long, fun j lt l here' => ?_⟩
      exact Nat.le_of_not_lt fun long' => before ⟨j, lt, l, here', long'⟩

/-- The check comes as far as the first line that is too long, if the lines before it are not too
many already. -/
theorem checkFrom_of_firstLong (h : FirstLong limits lines i line)
    (early : index + i ≤ limits.maxLines) :
    checkFrom limits index lines = .error (.lineTooLong (index + i + 1) line.length) := by
  induction lines generalizing index i with
  | nil => exact nomatch h.here
  | cons l lines ih =>
    cases i with
    | zero =>
      obtain rfl := Option.some.inj h.here
      exact if_pos h.long
    | succ i =>
      obtain ⟨short, later⟩ := h.of_succ
      have room : index ≠ limits.maxLines := by omega
      rw [checkFrom, if_neg (Nat.not_lt.mpr short), if_neg room, ih later (by omega),
        Nat.succ_add_eq_add_succ]

/-- The check ends at the line that is one too many, if none up to it is too long. -/
theorem checkFrom_of_full (below : index ≤ limits.maxLines)
    (many : limits.maxLines < index + lines.length)
    (short : ∀ j l, lines[j]? = some l → index + j ≤ limits.maxLines →
      l.length ≤ limits.maxLineLength) :
    checkFrom limits index lines = .error (.tooManyLines limits.maxLines) := by
  induction lines generalizing index with
  | nil => exact absurd many (Nat.not_lt.mpr below)
  | cons l lines ih =>
    rw [checkFrom, if_neg (Nat.not_lt.mpr (short 0 l rfl below))]
    split
    · rfl
    · next room =>
      rw [List.length_cons] at many
      refine ih (by omega) (by omega) fun j l here near => ?_
      exact short (j + 1) l here (by omega)

/-- What the limits say of the lines of a text is what comes of splitting it. -/
theorem Judgment.splitLines_eq {text : Text} {result : Except LoadError (List Text)}
    (h : Judgment limits (Text.lines text) result) : splitLines limits text = result := by
  cases h with
  | accepted fits => exact splitLines_eq_ok_iff.mpr ⟨rfl, fits.short, fits.few⟩
  | @lineTooLong i line first early =>
    have near : 0 + i ≤ limits.maxLines := by omega
    rw [splitLines, checkFrom_of_firstLong first near, Nat.zero_add]
    rfl
  | tooManyLines exceeded late =>
    have short : ∀ j l, (Text.lines text)[j]? = some l → 0 + j ≤ limits.maxLines →
        l.length ≤ limits.maxLineLength := by
      intro j l here near
      refine Nat.le_of_not_lt fun long => ?_
      obtain ⟨i, le, line, first⟩ := exists_firstLong here long
      have := late i line first
      omega
    have many : limits.maxLines < 0 + (Text.lines text).length := by
      refine Nat.lt_of_not_le fun few => exceeded ⟨fun l mem => ?_, by omega⟩
      obtain ⟨j, here⟩ := List.getElem?_of_mem mem
      have inside : j < (Text.lines text).length := (List.getElem?_eq_some_iff.mp here).1
      exact short j l here (by omega)
    rw [splitLines, checkFrom_of_full (Nat.zero_le _) many short]
    rfl

/-- The limits say something of all lines. -/
theorem exists_judgment (limits : Limits) (lines : List Text) :
    ∃ result, Judgment limits lines result := by
  by_cases fits : Fits limits lines
  · exact ⟨_, .accepted fits⟩
  · by_cases early : ∃ i line, FirstLong limits lines i line ∧ i ≤ limits.maxLines
    · obtain ⟨i, line, first, le⟩ := early
      exact ⟨_, .lineTooLong first le⟩
    · refine ⟨_, .tooManyLines fits fun i line first => ?_⟩
      exact Nat.lt_of_not_le fun le => early ⟨i, line, first, le⟩

/-- The lines of a text are accepted if they are within the limits. Else the first line that is too
long is reported, if there is one and no more lines stand before it than are allowed, and otherwise
that there are too many. -/
theorem splitLines_eq_iff_judgment (limits : Limits) (text : Text)
    (result : Except LoadError (List Text)) :
    splitLines limits text = result ↔ Judgment limits (Text.lines text) result := by
  refine ⟨fun split => ?_, Judgment.splitLines_eq⟩
  obtain ⟨judged, judgment⟩ := exists_judgment limits (Text.lines text)
  rw [← split, judgment.splitLines_eq]
  exact judgment

/-- Of three lines where one is allowed, the second is still looked at, and the third no more. -/
example :
    splitLines { maxLines := 1, maxLineLength := 5 } "rings\namulets\nboots" =
        .error (.lineTooLong 2 7) ∧
      splitLines { maxLines := 1, maxLineLength := 5 } "rings\nboots\namulets" =
        .error (.tooManyLines 1) :=
  ⟨rfl, rfl⟩

end LootRules.RuleFile
