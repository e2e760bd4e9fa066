import LootRules.Proofs.Condition.Operators

/-!
# Conditions read by descent

A condition can be read by readers that call one another: one for a value, one for the bracket that
a value may be, and one for the operands of a bracket, which asks the first for each of them. That
these come to an end is not clear from the calls alone. A value may be a word without text, and a
bracket may be left open or be ended by any character; if some call took no character, the reader of
operands would go on for ever.

The readers here are given fuel, of which every call takes one. With more than twice the length of
the text they come to an end on every text, and with the result of the reader that goes through the
text once and keeps the open brackets. What that reader leaves has had no part in the result: with
any other text behind what has been read, it is the same.
-/

namespace LootRules.Condition

namespace Descent

/-- The value of a bracket, in front of what ends the last value in it. An operator without text
is a mistake, and so is any end but a closing bracket. -/
def bracketValue (op : Text) (operands : List Text) (s : Text) : Text :=
  if s.head? = some ']' then if op.isEmpty then unknown else apply op operands else unclosed

mutual

/-- Reads a value, up to the character that ends it. -/
def value? (resolve : Text → Text) : Nat → Text → Option (Text × Text)
  | 0, _ => none
  | fuel + 1, s =>
    match Text.trimStart s with
    | '[' :: t => bracket? resolve fuel t
    | t => some (wordValue resolve (t.takeWhile (!endsWord ·)), t.dropWhile (!endsWord ·))

/-- Reads what follows an opening bracket, up to the character behind the bracket. -/
def bracket? (resolve : Text → Text) : Nat → Text → Option (Text × Text)
  | 0, _ => none
  | fuel + 1, s => do
    let (op, s) ← value? resolve fuel s
    let (operands, s) ← if op.isEmpty then some ([], s) else operands? resolve fuel s
    return (bracketValue op operands s, s.tail)

/-- Reads operands from the character that ends the last value on, as long as that is no closing
bracket and there is more text behind it. -/
def operands? (resolve : Text → Text) : Nat → Text → Option (List Text × Text)
  | 0, _ => none
  | fuel + 1, s =>
    if s.head? = some ']' ∨ s.tail = [] then some ([], s)
    else do
      let (value, s) ← value? resolve fuel s.tail
      let (values, s) ← operands? resolve fuel s
      return (value :: values, s)

end

/-- Reads a condition: its value, and the text behind the character that ends it. -/
def read? (resolve : Text → Text) (fuel : Nat) (s : Text) : Option (Text × Text) :=
  (value? resolve fuel s).map fun (value, rest) => (value, rest.tail)

end Descent

variable {resolve : Text → Text}

/-- A character ends the reading with a value or leads to another place, and what stands behind it
makes no difference to that. -/
def LooksNoFurther (resolve : Text → Text) (reading : Reading) (brackets : List Bracket)
    (c : Char) : Prop :=
  (∃ value, ∀ s, readFrom resolve reading brackets (c :: s) = (value, s)) ∨
    ∃ reading' brackets', ∀ s,
      readFrom resolve reading brackets (c :: s) = readFrom resolve reading' brackets' s

/-- At a value the reader looks no further than the character behind it. -/
theorem looksNoFurther_closed (value : Text) (brackets : List Bracket) (c : Char) :
    LooksNoFurther resolve (.closed value) brackets c := by
  cases brackets with
  | nil => exact .inl ⟨value, fun s => rfl⟩
  | cons b brackets =>
    cases taken : b.take value c with
    | inl b' => exact .inr ⟨_, _, readFrom_taken resolve brackets taken⟩
    | inr result => exact .inr ⟨_, _, readFrom_left resolve brackets taken⟩

/-- In a word the reader looks no further than the next character. -/
theorem looksNoFurther_word (reversed : Text) (brackets : List Bracket) (c : Char) :
    LooksNoFurther resolve (.word reversed) brackets c := by
  cases ends : endsWord c with
  | false => exact .inr ⟨_, _, readFrom_goOn resolve brackets ends reversed⟩
  | true =>
    rw [LooksNoFurther]
    simp only [readFrom_ended resolve brackets ends]
    exact looksNoFurther_closed _ brackets c

/-- The reader never looks further than the next character. -/
theorem looksNoFurther (reading : Reading) (brackets : List Bracket) (c : Char) :
    LooksNoFurther resolve reading brackets c := by
  cases reading with
  | closed value => exact looksNoFurther_closed value brackets c
  | word reversed => exact looksNoFurther_word reversed brackets c
  | between =>
    cases blank : Text.isBlank c with
    | true => exact .inr ⟨_, _, readFrom_blank resolve brackets blank⟩
    | false =>
      by_cases opening : c = '['
      · subst opening
        exact .inr ⟨_, _, readFrom_open resolve brackets⟩
      · rw [LooksNoFurther]
        simp only [readFrom_begin resolve brackets blank opening]
        exact looksNoFurther_word [] brackets c

/-- What is left is the end of the text. -/
theorem readFrom_suffix (reading : Reading) (brackets : List Bracket) (s : Text) :
    (readFrom resolve reading brackets s).2 <:+ s := by
  induction s generalizing reading brackets with
  | nil => exact List.suffix_refl []
  | cons c s ih =>
    rcases looksNoFurther reading brackets c with ⟨value, ended⟩ | ⟨reading', brackets', on⟩
    · rw [ended]
      exact List.suffix_cons c s
    · rw [on]
      exact (ih reading' brackets').trans (List.suffix_cons c s)

/-- Where text is left, the same is read with any other text in its place. -/
theorem readFrom_append {reading : Reading} {brackets : List Bracket} {s value rest : Text}
    (h : readFrom resolve reading brackets s = (value, rest)) (more : rest ≠ []) :
    ∃ before, s = before ++ rest ∧
      ∀ t, readFrom resolve reading brackets (before ++ t) = (value, t) := by
  induction s generalizing reading brackets with
  | nil =>
    rw [readFrom] at h
    exact absurd (Prod.mk.inj h).2.symm more
  | cons c s ih =>
    rcases looksNoFurther reading brackets c with ⟨value', ended⟩ | ⟨reading', brackets', on⟩
    · rw [ended] at h
      obtain ⟨rfl, rfl⟩ := Prod.mk.inj h
      exact ⟨[c], rfl, ended⟩
    · rw [on] at h
      obtain ⟨before, rfl, same⟩ := ih h
      refine ⟨c :: before, rfl, fun t => ?_⟩
      rw [List.cons_append, on]
      exact same t

namespace Descent

/-- From between values, reading comes to a value in front of what is left, whatever brackets are
open. -/
structure Reads (resolve : Text → Text) (s value rest : Text) : Prop where
  length_le : rest.length ≤ s.length
  readFrom_eq : ∀ brackets,
    readFrom resolve .between brackets s = readFrom resolve (.closed value) brackets rest

/-- Behind an opening bracket, reading comes to the value of the bracket in front of what is left
behind it. -/
structure ReadsBracket (resolve : Text → Text) (s value rest : Text) : Prop where
  length_le : rest.length ≤ s.length
  readFrom_eq : ∀ brackets,
    readFrom resolve .between ({} :: brackets) s = readFrom resolve (.closed value) brackets rest

/-- A bracket that is handed a value has its operator then and so many operands, with which it ends
or goes on. -/
structure Collects (b : Bracket) (value op : Text) (operands : List Text) : Prop where
  goesOn : ∀ c, c ≠ ']' → b.take value c = .inl ⟨some op, operands⟩
  ends : b.take value ']' = .inr (apply op operands.reverse)

/-- At a value that a bracket has collected, reading comes to the value of the bracket with further
operands. -/
structure ReadsOperands (resolve : Text → Text) (s : Text) (values : List Text) (rest : Text) :
    Prop where
  length_le : rest.length ≤ s.length
  readFrom_eq : ∀ {b : Bracket} {value op : Text} {operands : List Text} (brackets : List Bracket),
    op ≠ [] → Collects b value op operands →
    readFrom resolve (.closed value) (b :: brackets) s =
      readFrom resolve (.closed (bracketValue op (operands.reverse ++ values) rest)) brackets
        rest.tail

/-- A bracket collects its operator, if that has text. -/
theorem collects_operator {op : Text} (text : op ≠ []) : Collects {} op op [] := by
  obtain ⟨c, op, rfl⟩ := List.exists_cons_of_ne_nil text
  refine ⟨fun d other => ?_, rfl⟩
  simp only [Bracket.take, List.isEmpty_cons, Bool.false_eq_true, other, if_false]

/-- A bracket that has its operator collects operands. -/
theorem collects_operand (op : Text) (operands : List Text) (value : Text) :
    Collects ⟨some op, operands⟩ value op (value :: operands) := by
  refine ⟨fun c other => ?_, ?_⟩
  · simp only [Bracket.take, other, if_false]
  · simp only [Bracket.take, if_true, List.reverse_cons]

/-- Blanks in front of a value are passed over. -/
theorem readFrom_trimStart (brackets : List Bracket) (s : Text) :
    readFrom resolve .between brackets (Text.trimStart s) =
      readFrom resolve .between brackets s := by
  induction s with
  | nil => rfl
  | cons c s ih =>
    rw [Text.trimStart, List.dropWhile_cons]
    split
    · next blank =>
      rw [readFrom_blank resolve brackets blank]
      exact ih
    · rfl

/-- Without blanks in front of it and without a bracket, a value is a word. -/
theorem reads_word (resolve : Text → Text) {s : Text} (seen : ∀ c ∈ s.head?, Text.isBlank c = false)
    (other : s.head? ≠ some '[') :
    Reads resolve s (wordValue resolve (s.takeWhile (!endsWord ·)))
      (s.dropWhile (!endsWord ·)) := by
  refine ⟨(List.dropWhile_sublist _).length_le, fun brackets => ?_⟩
  have plain : ∀ c ∈ s.takeWhile (!endsWord ·), endsWord c = false := fun _ =>
    endsWord_of_mem_takeWhile
  have word : readFrom resolve (.word []) brackets s =
      readFrom resolve (.closed (wordValue resolve (s.takeWhile (!endsWord ·)))) brackets
        (s.dropWhile (!endsWord ·)) := by
    conv_lhs => rw [← List.takeWhile_append_dropWhile (p := (!endsWord ·)) (l := s)]
    exact readFrom_word resolve [] brackets plain (endsWord_dropWhile s)
  rw [← word]
  cases s with
  | nil => cases brackets <;> rfl
  | cons c s =>
    exact readFrom_begin resolve brackets (seen c rfl) (fun same => other (congrArg some same)) s

/-- With fuel for a text, reading a value comes to an end. -/
def ValueEnds (resolve : Text → Text) (fuel : Nat) : Prop :=
  ∀ s : Text, 2 * s.length < fuel →
    ∃ value rest, value? resolve fuel s = some (value, rest) ∧ Reads resolve s value rest

/-- With fuel for a text, reading a bracket comes to an end. -/
def BracketEnds (resolve : Text → Text) (fuel : Nat) : Prop :=
  ∀ s : Text, 2 * s.length + 1 < fuel →
    ∃ value rest, bracket? resolve fuel s = some (value, rest) ∧ ReadsBracket resolve s value rest

/-- With fuel for a text, reading operands comes to an end. -/
def OperandsEnd (resolve : Text → Text) (fuel : Nat) : Prop :=
  ∀ s : Text, 2 * s.length < fuel →
    ∃ values rest, operands? resolve fuel s = some (values, rest) ∧
      ReadsOperands resolve s values rest

variable {fuel : Nat}

/-- Reading a value comes to an end if reading a bracket does. -/
theorem valueEnds_succ (bracket : BracketEnds resolve fuel) : ValueEnds resolve (fuel + 1) := by
  intro s enough
  have shorter : (Text.trimStart s).length ≤ s.length := (List.dropWhile_sublist _).length_le
  have seen : ∀ c ∈ (Text.trimStart s).head?, Text.isBlank c = false :=
    Text.eq_false_of_mem_head?_dropWhile Text.isBlank s
  rw [value?]
  split
  · next t opened =>
    rw [opened, List.length_cons] at shorter
    obtain ⟨value, rest, read, length, same⟩ := bracket t (by omega)
    refine ⟨value, rest, read, by omega, fun brackets => ?_⟩
    rw [← readFrom_trimStart, opened, readFrom_open, same]
  · next other =>
    obtain ⟨length, same⟩ := reads_word resolve seen fun first => by
      obtain ⟨t, opened⟩ := List.head?_eq_some_iff.mp first
      exact other t opened
    refine ⟨_, _, rfl, length.trans shorter, fun brackets => ?_⟩
    rw [← readFrom_trimStart, same]

/-- At the end of a text, a value is that of an unclosed bracket. -/
theorem readFrom_unclosed (brackets : List Bracket) :
    readFrom resolve (.closed unclosed) brackets [] = (unclosed, []) := by
  cases brackets <;> rfl

/-- In front of a closing bracket, or without text behind what ends the last value, there are no
further operands. -/
theorem readsOperands_nil {s : Text} (stop : s.head? = some ']' ∨ s.tail = []) :
    ReadsOperands resolve s [] s := by
  refine ⟨Nat.le_refl _, fun {b value op operands} brackets text collects => ?_⟩
  rw [List.append_nil]
  cases s with
  | nil => exact (readFrom_unclosed brackets).symm
  | cons c s =>
    by_cases closing : c = ']'
    · subst closing
      have ended : bracketValue op operands.reverse (']' :: s) = apply op operands.reverse := by
        simp only [bracketValue, List.head?_cons, if_true, List.isEmpty_eq_false_iff.mpr text,
          Bool.false_eq_true, if_false]
      rw [readFrom_left resolve brackets collects.ends, ended]
      rfl
    · have alone : s = [] := stop.resolve_left fun first => closing (Option.some.inj first)
      have open' : bracketValue op operands.reverse [c] = unclosed :=
        if_neg fun first => closing (Option.some.inj first)
      rw [alone, readFrom_taken resolve brackets (collects.goesOn c closing), open']
      exact (readFrom_unclosed brackets).symm

/-- A value behind any other character is an operand in front of further ones. -/
theorem readsOperands_cons {c : Char} {s value rest last : Text} {values : List Text}
    (other : c ≠ ']') (first : Reads resolve s value rest)
    (more : ReadsOperands resolve rest values last) :
    ReadsOperands resolve (c :: s) (value :: values) last := by
  refine ⟨?_, fun {b before op operands} brackets text collects => ?_⟩
  · exact (more.length_le.trans first.length_le).trans (Nat.le_succ _)
  · rw [readFrom_taken resolve brackets (collects.goesOn c other), first.readFrom_eq,
      more.readFrom_eq brackets text (collects_operand op operands value), List.reverse_cons,
      List.append_assoc, List.singleton_append]

/-- Reading operands comes to an end if reading a value and reading further operands does. -/
theorem operandsEnd_succ (value : ValueEnds resolve fuel) (operands : OperandsEnd resolve fuel) :
    OperandsEnd resolve (fuel + 1) := by
  intro s enough
  rw [operands?]
  split
  · next stop => exact ⟨_, _, rfl, readsOperands_nil stop⟩
  · next goesOn =>
    rw [not_or] at goesOn
    obtain ⟨closing, more⟩ := goesOn
    cases s with
    | nil => exact absurd rfl more
    | cons c s =>
      rw [List.length_cons] at enough
      obtain ⟨operand, rest, read, first⟩ := value s (by omega)
      have shorter := first.length_le
      obtain ⟨values, last, read', further⟩ := operands rest (by omega)
      refine ⟨operand :: values, last, ?_, readsOperands_cons (fun same => ?_) first further⟩
      · simp only [List.tail_cons, read, read', Option.bind_eq_bind, Option.bind_some,
          Option.pure_def]
      · exact closing (congrArg some same)

/-- A bracket whose operator has no text ends with that. -/
theorem readsBracket_nil {s rest : Text} (operator : Reads resolve s [] rest) :
    ReadsBracket resolve s (bracketValue [] [] rest) rest.tail := by
  refine ⟨?_, fun brackets => ?_⟩
  · exact (List.tail_sublist rest).length_le.trans operator.length_le
  · rw [operator.readFrom_eq]
    cases rest with
    | nil => exact (readFrom_unclosed brackets).symm
    | cons c rest =>
      have left : ({} : Bracket).take [] c = .inr (bracketValue [] [] (c :: rest)) := by
        simp [Bracket.take, bracketValue]
      rw [readFrom_left resolve brackets left]
      rfl

/-- Any other bracket goes on with its operands. -/
theorem readsBracket_operands {s op rest last : Text} {values : List Text} (text : op ≠ [])
    (operator : Reads resolve s op rest) (operands : ReadsOperands resolve rest values last) :
    ReadsBracket resolve s (bracketValue op values last) last.tail := by
  refine ⟨?_, fun brackets => ?_⟩
  · exact (List.tail_sublist last).length_le.trans
      (operands.length_le.trans operator.length_le)
  · rw [operator.readFrom_eq, operands.readFrom_eq brackets text (collects_operator text)]
    rfl

/-- Reading a bracket comes to an end if reading a value and reading operands does. -/
theorem bracketEnds_succ (value : ValueEnds resolve fuel) (operands : OperandsEnd resolve fuel) :
    BracketEnds resolve (fuel + 1) := by
  intro s enough
  obtain ⟨op, rest, read, operator⟩ := value s (by omega)
  have shorter := operator.length_le
  cases op with
  | nil =>
    refine ⟨_, _, ?_, readsBracket_nil operator⟩
    simp only [bracket?, read, Option.bind_eq_bind, Option.bind_some, Option.pure_def,
      List.isEmpty_nil, if_true]
  | cons c op =>
    obtain ⟨values, last, read', more⟩ := operands rest (by omega)
    refine ⟨_, _, ?_, readsBracket_operands (List.cons_ne_nil c op) operator more⟩
    simp only [bracket?, read, read', Option.bind_eq_bind, Option.bind_some, Option.pure_def,
      List.isEmpty_cons, Bool.false_eq_true, if_false]

/-- With fuel for a text, each of the readers comes to an end. -/
theorem ends (resolve : Text → Text) (fuel : Nat) :
    ValueEnds resolve fuel ∧ BracketEnds resolve fuel ∧ OperandsEnd resolve fuel := by
  induction fuel with
  | zero => exact ⟨fun _ low => by omega, fun _ low => by omega, fun _ low => by omega⟩
  | succ fuel ih =>
    obtain ⟨value, bracket, operands⟩ := ih
    exact ⟨valueEnds_succ bracket, bracketEnds_succ value operands,
      operandsEnd_succ value operands⟩

/-- With fuel for a text, reading by descent gives what the reader of conditions gives. -/
theorem read?_eq {s : Text} (enough : 2 * s.length < fuel) :
    read? resolve fuel s = some (read resolve s) := by
  obtain ⟨value, rest, ended, reads⟩ := (ends resolve fuel).1 s enough
  have whole : read resolve s = (value, rest.tail) := by
    rw [read, reads.readFrom_eq]
    cases rest <;> rfl
  rw [read?, ended, whole, Option.map_some]

end Descent

/-- What is left of a text is what stands behind the characters that belong to the condition. -/
theorem read_eq_drop (resolve : Text → Text) (s : Text) :
    read resolve s = (eval resolve s, s.drop (consumed resolve s)) :=
  Prod.ext rfl (List.suffix_iff_eq_drop.mp (readFrom_suffix .between [] s))

/-- Reading a condition by descent comes to an end on every text, with the value and with what is
left behind the characters that belong to the condition. Unless these are all of the text, the same
value is read of them, and the same number of characters, whatever stands behind them. -/
theorem eval_ends (resolve : Text → Text) (s : Text) :
    let n := consumed resolve s
    (∀ fuel, 2 * s.length < fuel →
        Descent.read? resolve fuel s = some (eval resolve s, s.drop n)) ∧
      n ≤ s.length ∧
      (n < s.length → ∀ t,
        eval resolve (s.take n ++ t) = eval resolve s ∧ consumed resolve (s.take n ++ t) = n) := by
  intro n
  have whole : read resolve s = (eval resolve s, s.drop n) := read_eq_drop resolve s
  refine ⟨fun fuel enough => ?_, Nat.sub_le _ _, fun more t => ?_⟩
  · rw [Descent.read?_eq enough, whole]
  · have rest : s.drop n ≠ [] := by
      rw [Ne, List.drop_eq_nil_iff]
      omega
    obtain ⟨before, split, same⟩ := readFrom_append whole rest
    have length : n = before.length := by
      have := congrArg List.length split
      rw [List.length_append, List.length_drop] at this
      omega
    have start : s.take n = before := by
      conv_lhs => rw [split, length]
      exact List.take_left
    have again : read resolve (before ++ t) = (eval resolve s, t) := same t
    rw [start, eval, consumed, again, List.length_append, length]
    exact ⟨rfl, Nat.add_sub_cancel _ _⟩

/-- Behind a condition for mages with an empty bracket in it, nine characters are left. Any others
can stand there instead. -/
theorem eval_ends_mage :
    let resolve := ({ profession := "Mage" } : Player).resolve
    let asked : Text := "[AND [EQU $CLASS Mage] [] [GEQ 1 0]] and rings"
    eval resolve asked = ['1'] ∧ consumed resolve asked = 37 ∧ 37 < asked.length ∧
      Descent.read? resolve 93 asked = some (['1'], "and rings".toList) ∧
      ∀ t, eval resolve ("[AND [EQU $CLASS Mage] [] [GEQ 1 0]] ".toList ++ t) = ['1'] := by
  intro resolve asked
  obtain ⟨ends, -, other⟩ := eval_ends resolve asked
  have value : eval resolve asked = ['1'] := by decide +kernel
  have length : consumed resolve asked = 37 := by decide +kernel
  have more : 37 < asked.length := by decide +kernel
  have fuel : 2 * asked.length < 93 := by decide +kernel
  have left : asked.drop 37 = "and rings".toList := by decide +kernel
  have start : asked.take 37 = "[AND [EQU $CLASS Mage] [] [GEQ 1 0]] ".toList := by decide +kernel
  rw [length] at ends other
  refine ⟨value, length, more, ?_, fun t => ?_⟩
  · rw [ends 93 fuel, value, left]
  · rw [← start, (other more t).1, value]

end LootRules.Condition
