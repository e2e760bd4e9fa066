import LootRules.Proofs.Condition.Expression

/-!
# Brackets and their operators

A character is taken in one of a few ways: it opens a bracket, goes on with a word, or ends a value,
which is then handed to the innermost bracket. What a value is makes a difference in one place only.
The first value of a bracket is its operator, and where that has no text the bracket is left at
once, in front of its operands and of its end. All that can bring this about is the word behind an
opening bracket, and there the closing bracket is not the next character. `operators` lists these
words.
-/

namespace LootRules.Condition

/-- The word that goes on here, unless the text or its bracket ends with it. -/
def restOfWord? (reversed : Text) : Text → Option Text
  | [] => none
  | c :: s =>
    if endsWord c then if c = ']' then none else some reversed.reverse
    else restOfWord? (c :: reversed) s

/-- The operator of the bracket that begins here, if it is a word and is not all that the bracket
has. -/
def operator? : Text → Option Text
  | [] => none
  | c :: s =>
    if Text.isBlank c then operator? s
    else if c = '[' then none
    else restOfWord? [] (c :: s)

/-- The operators behind the opening brackets of a text, as far as they are words and more of their
brackets follows. -/
def operators : Text → List Text
  | [] => []
  | c :: s => (if c = '[' then (operator? s).toList else []) ++ operators s

/-- The operators behind a character are operators of the whole text. -/
theorem mem_operators_cons {c : Char} {s word : Text} (h : word ∈ operators s) :
    word ∈ operators (c :: s) :=
  List.mem_append_right _ h

/-- The operator of the bracket that a text begins with is one of its operators. -/
theorem mem_operators_open {s word : Text} (h : word ∈ operator? s) :
    word ∈ operators ('[' :: s) := by
  rw [operators, if_pos rfl]
  exact List.mem_append_left _ (Option.mem_toList.mpr h)

/-- Blanks in front of an operator are passed over. -/
theorem operator?_blank {c : Char} (h : Text.isBlank c = true) (s : Text) :
    operator? (c :: s) = operator? s := by
  rw [operator?, h, if_pos rfl]

/-- An operator that is a word begins at any other character that opens no bracket. -/
theorem operator?_begin {c : Char} (seen : Text.isBlank c = false) (other : c ≠ '[') (s : Text) :
    operator? (c :: s) = restOfWord? [] (c :: s) := by
  rw [operator?, seen, if_neg Bool.false_ne_true, if_neg other]

/-- A word goes on as long as no character ends it. -/
theorem restOfWord?_goOn {c : Char} (goes : endsWord c = false) (reversed s : Text) :
    restOfWord? reversed (c :: s) = restOfWord? (c :: reversed) s := by
  rw [restOfWord?, goes, if_neg Bool.false_ne_true]

/-- A word is whole in front of what ends it, if the bracket does not end there too. -/
theorem restOfWord?_ended {c : Char} (ends : endsWord c = true) (other : c ≠ ']')
    (reversed s : Text) : restOfWord? reversed (c :: s) = some reversed.reverse := by
  rw [restOfWord?, ends, if_pos rfl, if_neg other]

section Steps

variable (resolve : Text → Text) (brackets : List Bracket)

/-- A blank between values is passed over. -/
theorem readFrom_blank {c : Char} (h : Text.isBlank c = true) (s : Text) :
    readFrom resolve .between brackets (c :: s) = readFrom resolve .between brackets s := by
  rw [readFrom]
  simp only [h, if_true]

/-- A word, perhaps without text, begins at any other character that opens no bracket. -/
theorem readFrom_begin {c : Char} (seen : Text.isBlank c = false) (other : c ≠ '[') (s : Text) :
    readFrom resolve .between brackets (c :: s) =
      readFrom resolve (.word []) brackets (c :: s) := by
  rw [readFrom, readFrom]
  simp only [seen, other, Bool.false_eq_true, if_false, List.reverse_nil]

/-- A word goes on as long as no character ends it. -/
theorem readFrom_goOn {c : Char} (goes : endsWord c = false) (reversed s : Text) :
    readFrom resolve (.word reversed) brackets (c :: s) =
      readFrom resolve (.word (c :: reversed)) brackets s := by
  rw [readFrom]
  simp only [goes, Bool.false_eq_true, if_false]

/-- A word that has ended is a value in front of what ended it. -/
theorem readFrom_ended {c : Char} (ends : endsWord c = true) (reversed s : Text) :
    readFrom resolve (.word reversed) brackets (c :: s) =
      readFrom resolve (.closed (wordValue resolve reversed.reverse)) brackets (c :: s) := by
  rw [readFrom, readFrom]
  simp only [ends, if_true]

/-- A bracket that goes on with a value waits for the next. -/
theorem readFrom_taken {b b' : Bracket} {value : Text} {c : Char} (h : b.take value c = .inl b')
    (s : Text) :
    readFrom resolve (.closed value) (b :: brackets) (c :: s) =
      readFrom resolve .between (b' :: brackets) s := by
  rw [readFrom]
  simp only [h]

/-- A bracket that ends with a value has a value itself. -/
theorem readFrom_left {b : Bracket} {value result : Text} {c : Char}
    (h : b.take value c = .inr result) (s : Text) :
    readFrom resolve (.closed value) (b :: brackets) (c :: s) =
      readFrom resolve (.closed result) brackets s := by
  rw [readFrom]
  simp only [h]

end Steps

/-- What an operator comes to is a text, and not that of an unclosed bracket. -/
theorem apply_ne (op : Text) (operands : List Text) :
    apply op operands ≠ unclosed ∧ apply op operands ≠ [] := by
  rw [apply_eq_operate, operate]
  split
  · rw [truth]
    split <;> decide
  · decide

namespace Bracket

/-- A closing bracket ends a bracket, whose value is a text then and not that of an unclosed
bracket. -/
theorem take_close (b : Bracket) (value : Text) :
    ∃ result, b.take value ']' = .inr result ∧ result ≠ unclosed ∧ result ≠ [] := by
  obtain ⟨op, operands⟩ := b
  cases op with
  | none =>
    cases value with
    | nil => exact ⟨unknown, rfl, by decide⟩
    | cons c value => exact ⟨_, rfl, apply_ne (c :: value) []⟩
  | some op => exact ⟨_, rfl, apply_ne op _⟩

/-- Without a closing bracket a bracket goes on, with an operator at least, if the operator has
text. -/
theorem take_more {b : Bracket} {value : Text} {c : Char} (other : c ≠ ']')
    (text : b.op = none → value ≠ []) :
    ∃ b', b.take value c = .inl b' ∧ b'.op ≠ none := by
  obtain ⟨op, operands⟩ := b
  cases op with
  | none =>
    obtain ⟨d, value, rfl⟩ := List.exists_cons_of_ne_nil (text rfl)
    refine ⟨{ op := some (d :: value) }, ?_, nofun⟩
    simp only [take, other, if_false, List.isEmpty_cons, Bool.false_eq_true]
  | some op =>
    refine ⟨⟨some op, value :: operands⟩, ?_, nofun⟩
    simp only [take, other, if_false]

/-- A bracket is left early if its operator has no text. -/
theorem take_early {b : Bracket} {c : Char} (other : c ≠ ']') (first : b.op = none) :
    b.take [] c = .inr unclosed := by
  obtain ⟨op, operands⟩ := b
  obtain rfl : op = none := first
  simp only [take, List.isEmpty_nil, if_true, other, if_false]

end Bracket

end LootRules.Condition
