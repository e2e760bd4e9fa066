import LootRules.Player
import LootRules.Proofs.Text.Integer
import Mathlib.Data.List.Chain

/-!
# Conditions as trees

A condition that is written as it should be is a tree: its leaves are words and variables, and
each of its other nodes is an operator in brackets with its operands behind it. Such a tree has
a meaning of its own, from the leaves up, in which nothing is said of characters and brackets.

The reader knows no trees. It goes through the text of one, keeps the open brackets, and is
handed every value with the character behind it. The main statement is that it arrives at the
meaning nevertheless, at any depth, and stops right behind the text. What a variable stands for
may be any text; brackets and spaces in it are never read.

Numbers are meant to be compared as the integers that the values begin with, of any size. The
reader has words of 64 bits for them, and takes an integer that does not fit one for zero. So what
a tree means is said for any way to take a value for a number: the reader arrives at the meaning
with its own, and at the intended meaning as long as all integers that are compared fit.
-/

namespace LootRules.Condition

/-- A word that stands for itself. -/
structure Literal where
  text : Text
  ne_nil : text ≠ []
  /-- No character in it would end a word. -/
  plain : ∀ c ∈ text, endsWord c = false
  /-- It is not skipped as a blank, and is not taken for a variable. -/
  start : ∀ c ∈ text.head?, Text.isBlank c = false ∧ c ≠ '$'

/-- The name of a variable, which may be empty. -/
structure VariableName where
  text : Text
  /-- No character in it would end a word. -/
  plain : ∀ c ∈ text, endsWord c = false

/-- A condition as a tree. -/
inductive Expression where
  | literal (word : Literal)
  | named (name : VariableName)
  | bracketed (op : Literal) (operands : List Expression)

/-- The operators that have a meaning. -/
inductive Operator where
  | and | ior | not | equ | leq | geq
  deriving DecidableEq, Repr

namespace Operator

/-- How an operator is written. -/
def word : Operator → Text
  | and => "AND"
  | ior => "IOR"
  | not => "NOT"
  | equ => "EQU"
  | leq => "LEQ"
  | geq => "GEQ"

/-- The operator that is written so. -/
def ofWord? (word : Text) : Option Operator :=
  [and, ior, not, equ, leq, geq].find? (·.word = word)

/-- When an operator is true of values, with the number that each value is compared as. A value
without text is in order behind every other. -/
def Holds (number : Text → Int) : Operator → List Text → Prop
  | and, values => ∀ v ∈ values, v ≠ ['0']
  | ior, values => ∃ v ∈ values, v ≠ [] ∧ v ≠ ['0']
  | not, values => ∀ v ∈ values, v ≠ ['1']
  | equ, values => ∃ v ∈ values.head?, v ∈ values.tail
  | leq, values => values.IsChain fun a b => b = [] ∨ number a ≤ number b
  | geq, values => values.IsChain fun a b => b = [] ∨ number b ≤ number a

instance (number : Text → Int) (o : Operator) (values : List Text) :
    Decidable (o.Holds number values) := by
  cases o <;> dsimp only [Holds] <;> infer_instance

end Operator

/-- What an operator comes to. A word that is no operator has the value of a mistake. -/
def operate (number : Text → Int) (op : Text) (values : List Text) : Text :=
  match Operator.ofWord? op with
  | some o => truth (o.Holds number values)
  | none => unknown

namespace Expression

mutual

/-- A tree as text, with single spaces. -/
def render : Expression → Text
  | literal word => word.text
  | named name => '$' :: name.text
  | bracketed op operands => '[' :: op.text ++ renderOperands operands ++ [']']

/-- Operands as text, each behind a space. -/
def renderOperands : List Expression → Text
  | [] => []
  | t :: ts => ' ' :: t.render ++ renderOperands ts

end

mutual

/-- What a tree means, with the number that each value is compared as. -/
def meaning (number : Text → Int) (resolve : Text → Text) : Expression → Text
  | literal word => word.text
  | named name => resolve name.text
  | bracketed op operands => operate number op.text (meanings number resolve operands)

/-- What operands mean. -/
def meanings (number : Text → Int) (resolve : Text → Text) : List Expression → List Text
  | [] => []
  | t :: ts => t.meaning number resolve :: meanings number resolve ts

end

mutual

/-- The values that are compared as numbers somewhere in a tree. -/
def compared (resolve : Text → Text) : Expression → List Text
  | literal _ => []
  | named _ => []
  | bracketed op operands =>
    (match Operator.ofWord? op.text with
      | some .leq | some .geq => meanings Text.integer resolve operands
      | _ => []) ++ comparedIn resolve operands

/-- The values that are compared as numbers somewhere in some trees. -/
def comparedIn (resolve : Text → Text) : List Expression → List Text
  | [] => []
  | t :: ts => t.compared resolve ++ comparedIn resolve ts

end

/-- All integers that are compared in a tree fit a word. -/
def Fits (resolve : Text → Text) (t : Expression) : Prop :=
  ∀ v ∈ t.compared resolve, (Text.integer v).natAbs < Text.wordLimit

instance (resolve : Text → Text) (t : Expression) : Decidable (t.Fits resolve) :=
  List.decidableBAll _ _

end Expression

/-- Whether an operator is true depends on the numbers of values only if it compares them. -/
theorem Operator.holds_congr {number number' : Text → Int} {values : List Text} (o : Operator)
    (same : o = leq ∨ o = geq → ∀ v ∈ values, number v = number' v) :
    o.Holds number values ↔ o.Holds number' values := by
  cases o with
  | and | ior | not | equ => rfl
  | leq =>
    refine List.IsChain.iff_of_mem_imp fun a b left right => ?_
    rw [same (.inl rfl) a left, same (.inl rfl) b right]
  | geq =>
    refine List.IsChain.iff_of_mem_imp fun a b left right => ?_
    rw [same (.inr rfl) a left, same (.inr rfl) b right]

-- Trees and lists of trees contain each other.
mutual

/-- If all integers that are compared fit a word, a tree means the same to the lenient reader. -/
theorem Expression.meaning_lenientInteger {resolve : Text → Text} (t : Expression)
    (fits : t.Fits resolve) :
    t.meaning Text.lenientInteger resolve = t.meaning Text.integer resolve := by
  match t with
  | .literal _ | .named _ => rfl
  | .bracketed op operands =>
    rw [Fits, compared, List.forall_mem_append] at fits
    obtain ⟨own, inner⟩ := fits
    rw [meaning, meaning, meanings_lenientInteger operands inner, operate, operate]
    cases known : Operator.ofWord? op.text with
    | none => rfl
    | some o =>
      refine congrArg truth (decide_eq_decide.mpr (o.holds_congr ?_))
      rw [known] at own
      rintro (rfl | rfl)
      · exact fun v mem => Text.lenientInteger_of_lt (own v mem)
      · exact fun v mem => Text.lenientInteger_of_lt (own v mem)

/-- So do operands. -/
theorem Expression.meanings_lenientInteger {resolve : Text → Text} (ts : List Expression)
    (fits : ∀ v ∈ comparedIn resolve ts, (Text.integer v).natAbs < Text.wordLimit) :
    meanings Text.lenientInteger resolve ts = meanings Text.integer resolve ts := by
  match ts with
  | [] => rfl
  | t :: ts =>
    rw [comparedIn, List.forall_mem_append] at fits
    rw [meanings, meanings, meaning_lenientInteger t fits.1, meanings_lenientInteger ts fits.2]

end

/-- Neighbours are in order as the reader checks it if every two of them are. -/
theorem ordered_iff {holds : Int → Int → Bool} {R : Int → Int → Prop}
    (same : ∀ a b, holds a b ↔ R a b) (values : List Text) :
    ordered holds values ↔
      values.IsChain fun a b => b = [] ∨ R (Text.lenientInteger a) (Text.lenientInteger b) := by
  simp only [← Text.leadingInt_eq_lenientInteger]
  induction values with
  | nil => exact ⟨fun _ => .nil, fun _ => rfl⟩
  | cons a values ih =>
    cases values with
    | nil => exact ⟨fun _ => .singleton a, fun _ => rfl⟩
    | cons b values =>
      rw [List.isChain_cons_cons, ← ih, ← same, ← List.isEmpty_iff]
      simp only [ordered, List.tail_cons, List.zip_cons_cons, List.all_cons, Bool.and_eq_true,
        Bool.or_eq_true]

/-- The reader has every operator true of the values that it is true of with the lenient numbers. -/
theorem apply_word (o : Operator) (values : List Text) :
    apply o.word values = truth (o.Holds Text.lenientInteger values) := by
  have same (b : Bool) {p : Prop} [Decidable p] (h : b ↔ p) : truth b = truth p :=
    congrArg truth (Bool.eq_iff_iff.mpr (h.trans decide_eq_true_iff.symm))
  cases o with
  | and =>
    refine same (!values.any (· = ['0'])) ?_
    simp [Operator.Holds]
  | ior =>
    refine same (values.any fun v => !v.isEmpty && v ≠ ['0']) ?_
    simp [Operator.Holds]
  | not =>
    refine same (!values.any (· = ['1'])) ?_
    simp [Operator.Holds]
  | equ =>
    cases values with
    | nil => rfl
    | cons first values =>
      refine same (values.any (· = first)) ?_
      simp [Operator.Holds]
  | leq => exact same _ (ordered_iff (R := (· ≤ ·)) (fun a b => decide_eq_true_iff) values)
  | geq => exact same _ (ordered_iff (R := (· ≥ ·)) (fun a b => decide_eq_true_iff) values)

/-- Each operator is found by its word. -/
theorem Operator.ofWord?_word (o : Operator) : ofWord? o.word = some o := by
  cases o <;> decide

/-- The reader applies a word as it is meant, with the lenient numbers. -/
theorem apply_eq_operate (op : Text) (values : List Text) :
    apply op values = operate Text.lenientInteger op values := by
  by_cases known : ∃ o : Operator, op = o.word
  · obtain ⟨o, rfl⟩ := known
    rw [apply_word, operate, Operator.ofWord?_word]
  · rw [not_exists] at known
    have unlisted : Operator.ofWord? op = none :=
      List.find?_eq_none.mpr fun o _ => by simpa using fun same => known o same.symm
    rw [operate, unlisted]
    refine (if_neg (known .and)).trans ((if_neg (known .ior)).trans ?_)
    refine (if_neg (known .not)).trans ((if_neg (known .equ)).trans ?_)
    exact (if_neg (known .leq)).trans (if_neg (known .geq))

/-- What follows a word ends it. -/
def EndsWord (tail : Text) : Prop := ∀ c ∈ tail.head?, endsWord c

/-- Up to what ends a word, nothing ends it. -/
theorem endsWord_of_mem_takeWhile {s : Text} {c : Char} (h : c ∈ s.takeWhile (!endsWord ·)) :
    endsWord c = false := by
  simpa using List.mem_takeWhile_imp h

/-- What is left behind a word ends it. -/
theorem endsWord_dropWhile (s : Text) : EndsWord (s.dropWhile (!endsWord ·)) := by
  intro c first
  simpa using Text.eq_false_of_mem_head?_dropWhile (!endsWord ·) s c first

/-- A word is read up to what ends it. -/
theorem readFrom_word (resolve : Text → Text) (reversed : Text) (brackets : List Bracket)
    {word tail : Text} (plain : ∀ c ∈ word, endsWord c = false) (ends : EndsWord tail) :
    readFrom resolve (.word reversed) brackets (word ++ tail) =
      readFrom resolve (.closed (wordValue resolve (reversed.reverse ++ word))) brackets tail := by
  induction word generalizing reversed with
  | nil =>
    rw [List.nil_append, List.append_nil]
    cases tail with
    | nil => cases brackets <;> rfl
    | cons c tail =>
      have stop : endsWord c = true := ends c rfl
      simp only [readFrom, stop, if_true]
  | cons c word ih =>
    have goes : endsWord c = false := plain c List.mem_cons_self
    have rest : ∀ d ∈ word, endsWord d = false := fun d hd => plain d (List.mem_cons_of_mem c hd)
    rw [List.cons_append, readFrom]
    simp only [goes, Bool.false_eq_true, if_false]
    rw [ih (c :: reversed) rest, List.reverse_cons, List.append_assoc]
    rfl

/-- A word that is not skipped is read from its first character on. -/
theorem readFrom_between (resolve : Text → Text) (brackets : List Bracket) {word tail : Text}
    (nonempty : word ≠ []) (plain : ∀ c ∈ word, endsWord c = false)
    (start : ∀ c ∈ word.head?, Text.isBlank c = false) (ends : EndsWord tail) :
    readFrom resolve .between brackets (word ++ tail) =
      readFrom resolve (.closed (wordValue resolve word)) brackets tail := by
  obtain ⟨c, word, rfl⟩ := List.exists_cons_of_ne_nil nonempty
  have goes : endsWord c = false := plain c List.mem_cons_self
  have seen : Text.isBlank c = false := start c rfl
  have open' : c ≠ '[' := by
    rintro rfl
    contradiction
  have read : readFrom resolve .between brackets (c :: word ++ tail) =
      readFrom resolve (.word [c]) brackets (word ++ tail) := by
    rw [List.cons_append, readFrom]
    simp only [goes, seen, open', Bool.false_eq_true, if_false]
  rw [read]
  exact readFrom_word resolve [c] brackets
    (fun d hd => plain d (List.mem_cons_of_mem c hd)) ends

/-- Operands in front of more text begin with a space and the first of them. -/
theorem renderOperands_cons_append (t : Expression) (ts : List Expression) (rest : Text) :
    Expression.renderOperands (t :: ts) ++ rest =
      ' ' :: (t.render ++ (Expression.renderOperands ts ++ rest)) := by
  simp only [Expression.renderOperands, List.cons_append, List.append_assoc]

/-- What follows an operand ends a word: a space before the next, or the closing bracket. -/
theorem endsWord_renderOperands (ts : List Expression) (tail : Text) :
    EndsWord (Expression.renderOperands ts ++ ']' :: tail) := by
  cases ts with
  | nil => exact fun c hc => Option.some.inj hc ▸ rfl
  | cons t ts => exact fun c hc => Option.some.inj hc ▸ rfl

/-- A literal is its own value. -/
theorem wordValue_literal (resolve : Text → Text) (word : Literal) :
    wordValue resolve word.text = word.text := by
  have start := word.start
  unfold wordValue
  split
  · next dollar => exact absurd rfl (start '$' (dollar ▸ rfl)).2
  · rfl

/-- An opening bracket opens a bracket. -/
theorem readFrom_open (resolve : Text → Text) (brackets : List Bracket) (rest : Text) :
    readFrom resolve .between brackets ('[' :: rest) =
      readFrom resolve .between ({} :: brackets) rest := rfl

/-- The first value of a bracket is its operator, and a space lets its operands begin. -/
theorem readFrom_operator_space (resolve : Text → Text) {op : Text} (nonempty : op ≠ [])
    (brackets : List Bracket) (rest : Text) :
    readFrom resolve (.closed op) ({} :: brackets) (' ' :: rest) =
      readFrom resolve .between ({ op := op } :: brackets) rest := by
  obtain ⟨c, op, rfl⟩ := List.exists_cons_of_ne_nil nonempty
  rfl

/-- A value behind the operator is an operand, and a space lets the next begin. -/
theorem readFrom_operand_space (resolve : Text → Text) (value op : Text) (operands : List Text)
    (brackets : List Bracket) (rest : Text) :
    readFrom resolve (.closed value) (⟨op, operands⟩ :: brackets) (' ' :: rest) =
      readFrom resolve .between (⟨op, value :: operands⟩ :: brackets) rest := rfl

/-- An operator that is alone in its bracket is applied to nothing. -/
theorem readFrom_operator_end (resolve : Text → Text) {op : Text} (nonempty : op ≠ [])
    (brackets : List Bracket) (rest : Text) :
    readFrom resolve (.closed op) ({} :: brackets) (']' :: rest) =
      readFrom resolve (.closed (apply op [])) brackets rest := by
  obtain ⟨c, op, rfl⟩ := List.exists_cons_of_ne_nil nonempty
  rfl

-- Trees and lists of trees contain each other. Over a list, the operands that have been read
-- are general, since the bracket holds more of them at every step.
mutual

/-- Reading a tree comes to having its meaning, whatever brackets are open around it. -/
theorem readFrom_render (resolve : Text → Text) (t : Expression) (brackets : List Bracket)
    {tail : Text} (ends : EndsWord tail) :
    readFrom resolve .between brackets (t.render ++ tail) =
      readFrom resolve (.closed (t.meaning Text.lenientInteger resolve)) brackets tail := by
  match t with
  | .literal word =>
    rw [Expression.render, Expression.meaning, readFrom_between resolve brackets word.ne_nil
      word.plain (fun c hc => (word.start c hc).1) ends, wordValue_literal]
  | .named name =>
    have plain : ∀ c ∈ '$' :: name.text, endsWord c = false :=
      List.forall_mem_cons.mpr ⟨rfl, name.plain⟩
    have start : ∀ c ∈ ('$' :: name.text).head?, Text.isBlank c = false :=
      fun c hc => Option.some.inj hc ▸ rfl
    exact readFrom_between resolve brackets (List.cons_ne_nil _ _) plain start ends
  | .bracketed op operands =>
    have written : (Expression.bracketed op operands).render ++ tail =
        '[' :: (op.text ++ (Expression.renderOperands operands ++ ']' :: tail)) := by
      simp only [Expression.render, List.cons_append, List.append_assoc, List.nil_append]
    have operator := readFrom_between resolve ({} :: brackets) op.ne_nil op.plain
      (fun c hc => (op.start c hc).1) (endsWord_renderOperands operands tail)
    rw [written, readFrom_open, operator, wordValue_literal, Expression.meaning,
      ← apply_eq_operate]
    match operands with
    | [] => exact readFrom_operator_end resolve op.ne_nil brackets tail
    | t :: ts =>
      have first := readFrom_render resolve t ({ op := op.text } :: brackets)
        (endsWord_renderOperands ts tail)
      rw [renderOperands_cons_append, readFrom_operator_space resolve op.ne_nil, first]
      exact readFrom_renderOperands resolve ts _ op.text [] brackets tail

/-- Reading what is left of a bracket behind one of its operands comes to applying the
operator. -/
theorem readFrom_renderOperands (resolve : Text → Text) (ts : List Expression) (value op : Text)
    (operands : List Text) (brackets : List Bracket) (tail : Text) :
    readFrom resolve (.closed value) (⟨op, operands⟩ :: brackets)
        (Expression.renderOperands ts ++ ']' :: tail) =
      readFrom resolve
        (.closed (apply op
          (operands.reverse ++ value :: Expression.meanings Text.lenientInteger resolve ts)))
        brackets tail := by
  match ts with
  | [] => rfl
  | t :: ts =>
    have next := readFrom_render resolve t (⟨op, value :: operands⟩ :: brackets)
      (endsWord_renderOperands ts tail)
    rw [renderOperands_cons_append, readFrom_operand_space, next,
      readFrom_renderOperands resolve ts _ op (value :: operands) brackets tail,
      List.reverse_cons, List.append_assoc]
    rfl

end

/-- A tree is read with the character behind it, and the rest is left. -/
theorem read_render (resolve : Text → Text) (t : Expression) {tail : Text}
    (ends : EndsWord tail) :
    read resolve (t.render ++ tail) = (t.meaning Text.lenientInteger resolve, tail.tail) := by
  rw [read, readFrom_render resolve t [] ends]
  cases tail <;> rfl

/-- The value of a tree as text is its meaning, with integers beyond a word taken for zero, and so
the intended meaning if there are none of these to compare. As many characters belong to the
condition as the text has, with a space behind it if there is one. -/
theorem eval_render (resolve : Text → Text) (t : Expression) {tail : Text}
    (spaced : ∀ c ∈ tail.head?, c = ' ') :
    eval resolve (t.render ++ tail) = t.meaning Text.lenientInteger resolve ∧
      (t.Fits resolve → eval resolve (t.render ++ tail) = t.meaning Text.integer resolve) ∧
      consumed resolve (t.render ++ tail) =
        t.render.length + if tail.isEmpty then 0 else 1 := by
  have ends : EndsWord tail := fun c hc => spaced c hc ▸ rfl
  have whole := read_render resolve t ends
  have value : eval resolve (t.render ++ tail) = t.meaning Text.lenientInteger resolve := by
    rw [eval, whole]
  refine ⟨value, fun fits => value.trans (t.meaning_lenientInteger fits), ?_⟩
  rw [consumed, whole, List.length_append]
  cases tail with
  | nil => rfl
  | cons c tail =>
    have all : t.render.length + (tail.length + 1) - tail.length = t.render.length + 1 := by
      omega
    exact all

/-- The word of an operator is a word that stands for itself. -/
def Operator.literal (o : Operator) : Literal where
  text := o.word
  ne_nil := by cases o <;> simp [word]
  plain := by cases o <;> simp [word, endsWord, Text.isControl]
  start := by cases o <;> simp [word, Text.isBlank] <;> decide

/-- A condition for experienced mages. -/
def experiencedMage : Expression :=
  .bracketed Operator.and.literal
    [.bracketed Operator.equ.literal
      [.named ⟨"CLASS", by simp [endsWord, Text.isControl]⟩,
       .literal ⟨"Mage", by simp, by simp [endsWord, Text.isControl],
        by simp [Text.isBlank]; decide⟩],
     .bracketed Operator.geq.literal
      [.named ⟨"LEVEL", by simp [endsWord, Text.isControl]⟩,
       .literal ⟨"20", by simp, by simp [endsWord, Text.isControl],
        by simp [Text.isBlank]; decide⟩]]

/-- The condition is true of a mage of level 25, and ends before what follows the space. -/
theorem eval_render_experiencedMage :
    let mage : Player := { profession := "Mage", level := 25 }
    let s := experiencedMage.render ++ " rings".toList
    (∀ c ∈ (" rings".toList).head?, c = ' ') ∧ experiencedMage.Fits mage.resolve ∧
      eval mage.resolve s = ['1'] ∧ consumed mage.resolve s = 40 := by
  intro mage s
  have spaced : ∀ c ∈ (" rings".toList).head?, c = ' ' := by simp
  have fits : experiencedMage.Fits mage.resolve := by decide +kernel
  have written : experiencedMage.render =
      "[AND [EQU $CLASS Mage] [GEQ $LEVEL 20]]".toList := by decide +kernel
  have means : experiencedMage.meaning Text.integer mage.resolve = ['1'] := by decide +kernel
  obtain ⟨-, value, length⟩ := eval_render mage.resolve experiencedMage spaced
  refine ⟨spaced, fits, (value fits).trans means, length.trans ?_⟩
  rw [written]
  rfl

/-- A question about the first number that does not fit a word. -/
def wordLimitAtLeastOne : Expression :=
  .bracketed Operator.geq.literal
    [.literal ⟨"9223372036854775808", by simp, by simp [endsWord, Text.isControl],
      by simp [Text.isBlank]; decide⟩,
     .literal ⟨"1", by simp, by simp [endsWord, Text.isControl],
      by simp [Text.isBlank]; decide⟩]

/-- That number is at least one, but not to the reader. -/
theorem eval_wordLimitAtLeastOne_ne :
    wordLimitAtLeastOne.render = "[GEQ 9223372036854775808 1]".toList ∧
      wordLimitAtLeastOne.meaning Text.integer (fun _ => unknown) = ['1'] ∧
      eval (fun _ => unknown) (wordLimitAtLeastOne.render ++ []) = ['0'] := by
  decide +kernel

end LootRules.Condition
