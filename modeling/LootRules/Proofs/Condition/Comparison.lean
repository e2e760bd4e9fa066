import LootRules.Proofs.Condition.Expression
import LootRules.Proofs.Text.Numeral

/-!
# Comparing numbers

Two operators compare neighbours as numbers. What they get are texts: the digits in the condition,
and the level and the gold of the player, which are filled up with zeros. Every one of them is read
as the number that it was written for, whatever zeros stand in front, if that number fits a signed
word of 64 bits. Any larger one counts as zero. So comparisons are exact as long as nobody has too
much gold, and with more than that, it is less than a single piece.
-/

namespace LootRules.Condition

/-- What can be compared: a number with some zeros in front, and what the player has. -/
inductive Quantity where
  | number (zeros : Nat) (n : UInt64)
  | level
  | gold

namespace Quantity

/-- How a quantity is written in a condition. -/
def text : Quantity → Text
  | number zeros n => Text.numeral zeros n.toNat
  | level => "$LEVEL"
  | gold => "$MONEY"

/-- The number that a quantity stands for. -/
def amount (p : Player) : Quantity → Nat
  | number _ n => n.toNat
  | level => p.level.toNat
  | gold => p.gold.toNat

/-- The number that a quantity is taken for. -/
def counted (p : Player) (q : Quantity) : Nat := Text.leniently (q.amount p)

/-- A quantity that fits is taken for what it is. -/
theorem counted_of_lt {p : Player} {q : Quantity} (h : q.amount p < Text.wordLimit) :
    q.counted p = q.amount p := if_pos h

/-- A quantity that does not fit is taken for zero. -/
theorem counted_of_le {p : Player} {q : Quantity} (h : Text.wordLimit ≤ q.amount p) :
    q.counted p = 0 :=
  if_neg (Nat.not_lt.mpr h)

end Quantity

/-- A comparison in brackets, with single spaces. -/
def comparison (o : Operator) (operands : List Quantity) : Text :=
  '[' :: o.word ++ operands.flatMap (fun q => ' ' :: q.text) ++ [']']

/-- The variable with a text for its name, none of whose characters ends a word. -/
def VariableName.ofText (text : Text) (plain : text.all (!endsWord ·)) : VariableName where
  text := text
  plain := fun c mem => by simpa using List.all_eq_true.mp plain c mem

/-- The variable for the level. -/
def levelName : VariableName := .ofText "LEVEL" (by decide +kernel)

/-- The variable for the gold. -/
def moneyName : VariableName := .ofText "MONEY" (by decide +kernel)

/-- A digit ends no word. -/
theorem endsWord_of_isDigit {c : Char} (h : c.isDigit) : endsWord c = false := by
  have codes := Char.isDigit_iff_toNat.mp h
  have other : ∀ d : Char, d.toNat < 48 ∨ 57 < d.toNat → c ≠ d := by
    rintro d far rfl
    simp only [Char.reduceToNat] at codes
    omega
  have control : Text.isControl c = false := by
    simp only [Char.reduceToNat] at codes
    simp only [Text.isControl, Bool.or_eq_false_iff, Bool.and_eq_false_iff, decide_eq_false_iff_not]
    omega
  simp only [endsWord, control, other ' ' (by decide), other '[' (by decide),
    other ']' (by decide), decide_false, Bool.or_false]

/-- A numeral is a word that stands for itself. -/
def numeralLiteral (zeros n : Nat) : Literal where
  text := Text.numeral zeros n
  ne_nil := Text.numeral_ne_nil
  plain := fun _ mem => endsWord_of_isDigit (Text.isDigit_of_mem_numeral mem)
  start := fun c first => by
    have digit : c.isDigit := Text.isDigit_of_mem_numeral (List.mem_of_mem_head? first)
    refine ⟨Text.isBlank_of_isDigit digit, ?_⟩
    rintro rfl
    contradiction

namespace Quantity

/-- A quantity as a leaf of a tree. -/
def expression : Quantity → Expression
  | number zeros n => .literal (numeralLiteral zeros n.toNat)
  | level => .named levelName
  | gold => .named moneyName

/-- The leaf is written as the quantity is. -/
theorem render_expression (q : Quantity) : q.expression.render = q.text := by
  cases q <;> rfl

/-- For the player, a quantity is its amount in digits. -/
theorem exists_meaning_eq (p : Player) (number : Text → Int) (q : Quantity) :
    ∃ zeros, q.expression.meaning number p.resolve = Text.numeral zeros (q.amount p) := by
  cases q with
  | number zeros n => exact ⟨zeros, rfl⟩
  | level => exact ⟨_, Text.zeroPadded_eq_numeral 2 p.level.toNat⟩
  | gold => exact ⟨_, Text.zeroPadded_eq_numeral 9 p.gold.toNat⟩

/-- The text that a quantity comes to is compared as the number that it is taken for. -/
theorem lenientInteger_meaning (p : Player) (number : Text → Int) (q : Quantity) :
    q.expression.meaning number p.resolve ≠ [] ∧
      Text.lenientInteger (q.expression.meaning number p.resolve) = q.counted p := by
  obtain ⟨zeros, digits⟩ := q.exists_meaning_eq p number
  rw [digits]
  exact ⟨Text.numeral_ne_nil, Text.lenientInteger_numeral⟩

end Quantity

/-- Operands mean what each of them means. -/
theorem Expression.meanings_eq_map (number : Text → Int) (resolve : Text → Text)
    (ts : List Expression) : meanings number resolve ts = ts.map (meaning number resolve) := by
  induction ts with
  | nil => rfl
  | cons t ts ih => rw [meanings, ih, List.map_cons]

/-- The texts that some quantities come to. -/
def Quantity.values (p : Player) (operands : List Quantity) : List Text :=
  operands.map fun q => q.expression.meaning Text.lenientInteger p.resolve

/-- A comparison as a tree. -/
def comparisonTree (o : Operator) (operands : List Quantity) : Expression :=
  .bracketed o.literal (operands.map Quantity.expression)

/-- A comparison is the text of its tree. -/
theorem render_comparisonTree (o : Operator) (operands : List Quantity) :
    (comparisonTree o operands).render = comparison o operands := by
  have rest : Expression.renderOperands (operands.map Quantity.expression) =
      operands.flatMap fun q => ' ' :: q.text := by
    induction operands with
    | nil => rfl
    | cons q operands ih =>
      rw [List.map_cons, Expression.renderOperands, ih, q.render_expression, List.flatMap_cons]
  rw [comparisonTree, Expression.render, rest]
  rfl

/-- A comparison means to the reader what its operator says of the texts. -/
theorem meaning_comparisonTree (p : Player) (o : Operator) (operands : List Quantity) :
    (comparisonTree o operands).meaning Text.lenientInteger p.resolve =
      truth (o.Holds Text.lenientInteger (Quantity.values p operands)) := by
  have values : Expression.meanings Text.lenientInteger p.resolve
      (operands.map Quantity.expression) = Quantity.values p operands := by
    rw [Expression.meanings_eq_map, List.map_map]
    rfl
  rw [comparisonTree, Expression.meaning, values, ← apply_eq_operate]
  exact apply_word o _

/-- The value of a comparison is what it means. -/
theorem eval_comparison (p : Player) (o : Operator) (operands : List Quantity) :
    p.eval (comparison o operands) =
      (comparisonTree o operands).meaning Text.lenientInteger p.resolve := by
  have ends : EndsWord [] := nofun
  have whole := read_render p.resolve (comparisonTree o operands) ends
  rw [List.append_nil, render_comparisonTree] at whole
  rw [Player.eval, eval, whole]

/-- The texts of quantities are in order if the numbers that they are taken for are. -/
theorem isChain_values_iff (p : Player) {R : Int → Int → Prop} {S : Nat → Nat → Prop}
    (same : ∀ a b : Nat, R a b ↔ S a b) (operands : List Quantity) :
    (Quantity.values p operands).IsChain
        (fun a b => b = [] ∨ R (Text.lenientInteger a) (Text.lenientInteger b)) ↔
      (operands.map (Quantity.counted p)).IsChain S := by
  rw [Quantity.values, List.isChain_map, List.isChain_map]
  refine List.IsChain.iff fun a b => ?_
  rw [(a.lenientInteger_meaning p _).2, (b.lenientInteger_meaning p _).2, same]
  exact or_iff_right (b.lenientInteger_meaning p _).1

/-- What a comparison downwards means to the reader is whether the numbers go down. -/
theorem meaning_geq (p : Player) (operands : List Quantity) :
    (comparisonTree .geq operands).meaning Text.lenientInteger p.resolve =
      truth ((operands.map (Quantity.counted p)).IsChain (· ≥ ·)) := by
  have order := isChain_values_iff p (R := (· ≥ ·)) (fun a b => Int.ofNat_le) operands
  rw [meaning_comparisonTree]
  exact congrArg truth (decide_eq_decide.mpr order)

/-- What a comparison upwards means to the reader is whether the numbers go up. -/
theorem meaning_leq (p : Player) (operands : List Quantity) :
    (comparisonTree .leq operands).meaning Text.lenientInteger p.resolve =
      truth ((operands.map (Quantity.counted p)).IsChain (· ≤ ·)) := by
  have order := isChain_values_iff p (R := (· ≤ ·)) (fun a b => Int.ofNat_le) operands
  rw [meaning_comparisonTree]
  exact congrArg truth (decide_eq_decide.mpr order)

/-- The two comparisons of some quantities tell whether neighbours are in order, each taken for a
number. -/
def ComparedAs (p : Player) (number : Quantity → Nat) (operands : List Quantity) : Prop :=
  p.eval (comparison .geq operands) = truth ((operands.map number).IsChain (· ≥ ·)) ∧
    p.eval (comparison .leq operands) = truth ((operands.map number).IsChain (· ≤ ·))

/-- Quantities are compared as the numbers that they are taken for. -/
theorem comparedAs_counted (p : Player) (operands : List Quantity) :
    ComparedAs p (Quantity.counted p) operands :=
  ⟨(eval_comparison p .geq operands).trans (meaning_geq p operands),
    (eval_comparison p .leq operands).trans (meaning_leq p operands)⟩

/-- Each quantity is compared as the number that it stands for if that is below the limit, and else
as zero. So comparisons are right where all numbers are below the limit, and any number beyond it is
taken for less than one. -/
theorem comparedAs_amount (p : Player) :
    (∀ operands,
      ComparedAs p (fun q => if q.amount p < Text.wordLimit then q.amount p else 0) operands) ∧
    (∀ operands, (∀ q ∈ operands, q.amount p < Text.wordLimit) →
      ComparedAs p (Quantity.amount p) operands) ∧
    ∀ q : Quantity, Text.wordLimit ≤ q.amount p →
      p.eval (comparison .geq [q, .number 0 1]) = ['0'] ∧
        p.eval (comparison .leq [.number 0 1, q]) = ['0'] := by
  refine ⟨comparedAs_counted p, fun operands fit => ?_, fun q large => ?_⟩
  · have same : operands.map (Quantity.counted p) = operands.map (Quantity.amount p) :=
      List.map_congr_left fun q mem => Quantity.counted_of_lt (fit q mem)
    have compared := comparedAs_counted p operands
    rw [ComparedAs, same] at compared
    exact compared
  · have zero : q.counted p = 0 := Quantity.counted_of_le large
    have one : (Quantity.number 0 1).counted p = 1 := rfl
    rw [(comparedAs_counted p _).1, (comparedAs_counted p _).2]
    simp only [List.map_cons, List.map_nil, zero, one]
    exact ⟨rfl, rfl⟩

/-- A player of some experience and wealth. -/
def settled : Player := { level := 25, gold := 12000 }

/-- Zeros in front make no difference to a comparison, but the largest number of 64 bits is less
than one. -/
theorem comparedAs_amount_settled :
    let operands := [.number 1 30, .level, .number 0 20]
    (∀ q ∈ operands, q.amount settled < Text.wordLimit) ∧
      comparison .geq operands = "[GEQ 030 $LEVEL 20]".toList ∧
      ComparedAs settled (Quantity.amount settled) operands ∧
      settled.eval "[GEQ 030 $LEVEL 20]" = ['1'] ∧
      Text.wordLimit ≤ (Quantity.number 0 0xFFFFFFFFFFFFFFFF).amount settled ∧
      settled.eval (comparison .geq [.number 0 0xFFFFFFFFFFFFFFFF, .number 0 1]) = ['0'] := by
  intro operands
  have fit : ∀ q ∈ operands, q.amount settled < Text.wordLimit := by
    simp only [operands, List.forall_mem_cons, List.not_mem_nil, false_imp_iff, implies_true,
      and_true]
    decide
  have large : Text.wordLimit ≤ (Quantity.number 0 0xFFFFFFFFFFFFFFFF).amount settled := by decide
  obtain ⟨-, right, less⟩ := comparedAs_amount settled
  exact ⟨fit, by decide +kernel, right operands fit, by decide +kernel, large, (less _ large).1⟩

/-- With too much gold, a player has less than one piece. -/
theorem eval_money_ne :
    let rich : Player := { gold := 0x8000000000000000 }
    let operands := [.gold, .number 0 1]
    comparison .geq operands = "[GEQ $MONEY 1]".toList ∧
      (operands.map (Quantity.amount rich)).IsChain (· ≥ ·) ∧
      rich.eval (comparison .geq operands) = ['0'] := by
  decide +kernel

end LootRules.Condition
