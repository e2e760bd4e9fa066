import LootRules.Folder
import LootRules.Proofs.Text.Lines

/-!
# Files read back

A file is accepted just if each of its lines and the number of lines are within the limits. What is
written to a file is what is read from it, byte by byte, and the bytes of a text are those of no
other. So lines come back from a file just if they are within the limits and none of them holds a
line feed or ends in a carriage return.
-/

namespace LootRules

namespace RuleFile

/-- From an index within the limit on, lines are accepted if none is too long and there are not too
many. -/
theorem checkFrom_eq_ok_iff {limits : Limits} {index : Nat} (h : index ≤ limits.maxLines)
    (lines : List Text) :
    checkFrom limits index lines = .ok () ↔
      (∀ l ∈ lines, l.length ≤ limits.maxLineLength) ∧ index + lines.length ≤ limits.maxLines := by
  induction lines generalizing index with
  | nil => exact iff_of_true rfl ⟨nofun, h⟩
  | cons line lines ih =>
    rw [checkFrom, List.forall_mem_cons, List.length_cons]
    split
    · next long => exact iff_of_false nofun fun fits => Nat.not_lt.mpr fits.1.1 long
    · next short =>
      split
      · next full => exact iff_of_false nofun fun fits => by omega
      · next room =>
        rw [ih (Nat.lt_of_le_of_ne h room), and_iff_right (Nat.le_of_not_lt short)]
        refine and_congr_right fun _ => ?_
        rw [Nat.succ_add_eq_add_succ]

/-- A text is accepted with its lines, if none is too long and there are not too many. -/
theorem splitLines_eq_ok_iff {limits : Limits} {text : Text} {lines : List Text} :
    splitLines limits text = .ok lines ↔
      lines = Text.lines text ∧ (∀ l ∈ lines, l.length ≤ limits.maxLineLength) ∧
        lines.length ≤ limits.maxLines := by
  have accepted := checkFrom_eq_ok_iff (Nat.zero_le limits.maxLines) (Text.lines text)
  rw [Nat.zero_add] at accepted
  rw [splitLines]
  cases checked : checkFrom limits 0 (Text.lines text) with
  | error fault =>
    rw [checked] at accepted
    refine iff_of_false nofun ?_
    rintro ⟨rfl, fits⟩
    exact nomatch accepted.mpr fits
  | ok =>
    have fits := accepted.mp checked
    constructor
    · intro read
      obtain rfl := Except.ok.inj read
      exact ⟨rfl, fits⟩
    · rintro ⟨rfl, -⟩
      rfl

/-- The bytes of a text are read as that text. -/
theorem decode?_encode (lines : List Text) :
    decode? (encode lines) = some (Text.unlines lines) := by
  have valid : (String.ofList (Text.unlines lines)).toUTF8.IsValidUTF8 :=
    (String.ofList (Text.unlines lines)).isValidUTF8
  have read : String.fromUTF8? (encode lines) = some (String.ofList (Text.unlines lines)) :=
    dif_pos valid
  rw [decode?, read, Option.map_some, String.toList_ofList]

/-- The bytes of a file are those of a text, and exactly these lines come back from the text: those
that hold no line feed, do not end in a carriage return, and are within the limits. -/
theorem splitLines_written_iff (limits : Limits) (lines : List Text) :
    ∃ text, decode? (encode lines) = some text ∧
      (splitLines limits text = .ok lines ↔
        (∀ l ∈ lines, '\n' ∉ l ∧ l.getLast? ≠ some '\r') ∧
          (∀ l ∈ lines, l.length ≤ limits.maxLineLength) ∧ lines.length ≤ limits.maxLines) := by
  refine ⟨Text.unlines lines, decode?_encode lines, ?_⟩
  rw [splitLines_eq_ok_iff, eq_comm, Text.lines_unlines_iff]

/-- Unbroken lines come back from their bytes just if they are within the limits. -/
theorem load_encode_iff {limits : Limits} {path : Text} {lines : List Text}
    (h : ∀ l ∈ lines, Text.Unbroken l) :
    load limits path (.ok (encode lines)) = .ok lines ↔
      (∀ l ∈ lines, l.length ≤ limits.maxLineLength) ∧ lines.length ≤ limits.maxLines := by
  have read := Text.lines_unlines h
  rw [load, decode?_encode]
  dsimp only
  rw [splitLines_eq_ok_iff, read, and_iff_right rfl]

end RuleFile

namespace Folder

/-- Where a path leads does not depend on the files. -/
theorem walk_eq_ok {folder other : Folder} {inside : Bool} {parts : List Text} {place : Place}
    (h : folder.walk inside parts = .ok place) : other.walk inside parts = .ok place := by
  induction parts generalizing inside with
  | nil => exact h
  | cons part parts ih =>
    rw [walk] at h ⊢
    split
    · next stay =>
      rw [if_pos stay] at h
      exact ih h
    · next name =>
      rw [if_neg name] at h
      split
      · next up =>
        rw [if_pos up] at h
        exact ih h
      · next file =>
        rw [if_neg file] at h
        split
        · next last =>
          rw [if_pos last] at h
          exact h
        · next more =>
          rw [if_neg more] at h
          contradiction

/-- A path that leads somewhere leads there whatever files there are. -/
theorem place_eq_ok {folder other : Folder} {path : Text} {place : Place}
    (h : folder.place path = .ok place) : other.place path = .ok place := by
  rw [Folder.place] at h ⊢
  split
  · next null =>
    rw [if_pos null] at h
    contradiction
  · next named =>
    rw [if_neg named] at h
    exact walk_eq_ok h

/-- A file that has been written is read back. -/
theorem read_of_write {folder after : Folder} {path : Text} {bytes : ByteArray}
    (h : folder.write path bytes = .ok after) : after.read path = .ok bytes := by
  rw [write] at h
  cases placed : folder.place path with
  | error fault =>
    rw [placed] at h
    contradiction
  | ok place =>
    rw [placed] at h
    rw [read, place_eq_ok placed]
    cases place with
    | folder => contradiction
    | entry inside name slashed =>
      cases slashed with
      | true => cases inside <;> contradiction
      | false =>
        cases inside with
        | false => contradiction
        | true =>
          obtain rfl := Except.ok.inj h
          have first : ((name, bytes) :: folder.files.filter (·.1 ≠ name)).find? (·.1 = name) =
              some (name, bytes) :=
            List.find?_cons_of_pos (decide_eq_true rfl)
          simp only [bind, Except.bind, first, Bool.false_eq_true, if_false]

/-- Lines are written as their bytes. -/
theorem write_of_writeLines {folder after : Folder} {path : Text} {lines : List Text}
    (h : folder.writeLines path lines = .ok after) :
    folder.write path (RuleFile.encode lines) = .ok after := by
  rw [writeLines] at h
  split at h
  · next written => exact written.trans (congrArg _ (Except.ok.inj h))
  · contradiction

/-- Unbroken lines that have been written are read back just if they are within the limits. -/
theorem readLines_of_writeLines {folder after : Folder} {path : Text} {lines : List Text}
    (unbroken : ∀ l ∈ lines, Text.Unbroken l) (h : folder.writeLines path lines = .ok after)
    (limits : Limits) :
    after.readLines path limits = .ok lines ↔
      (∀ l ∈ lines, l.length ≤ limits.maxLineLength) ∧ lines.length ≤ limits.maxLines := by
  rw [readLines, read_of_write (write_of_writeLines h)]
  exact RuleFile.load_encode_iff unbroken

end Folder

end LootRules
