import LootRules.Proofs.Condition.Operators
import Mathlib.Data.List.Forall2

/-!
# How far a condition is read

What a condition is read for are values, and these differ from player to player. How far it is read
should not. The reader looks at values in one place, where it asks whether an operator has text; so
two readers of one text go the same way as long as they agree on that for every operator in it. For
most texts there is nothing to agree on, since a word that stands for itself has text whoever reads
it. It matters where a variable stands as an operator with more of its bracket behind it: there a
reader for whom the variable has no text stops, and one for whom it has text goes on.

The proof runs both readers side by side, over open brackets that differ in their values only.
-/

namespace LootRules.Condition

/-- Two resolvers agree on whether a word stands for a text. -/
def AgreeOn (f g : Text → Text) (word : Text) : Prop :=
  wordValue f word = [] ↔ wordValue g word = []

instance (f g : Text → Text) (word : Text) : Decidable (AgreeOn f g word) :=
  inferInstanceAs (Decidable (_ ↔ _))

/-- The next value is the operator of the innermost bracket. -/
def OperatorDue (brackets : List Bracket) : Prop := ∃ b ∈ brackets.head?, b.op = none

/-- Brackets of two readers that both have their operators, or both wait for them. -/
def Bracket.Alike (b b' : Bracket) : Prop := b.op = none ↔ b'.op = none

/-- Two readers are at the same point of a text. If the operator of a bracket is due, they will
agree on whether it has text, unless the bracket ends with it. -/
def Abreast (f g : Text → Text) (due : Prop) (s : Text) : Reading → Reading → Prop
  | .between, .between => due → ∀ word ∈ operator? s, AgreeOn f g word
  | .word reversed, .word reversed' =>
    reversed = reversed' ∧ (due → ∀ word ∈ restOfWord? reversed s, AgreeOn f g word)
  | .closed value, .closed value' =>
    due → ∀ c ∈ s.head?, c ≠ ']' → (value = [] ↔ value' = [])
  | _, _ => False

/-- Two readers that are at the same point of a text leave the same of it. -/
def LeaveSame (f g : Text → Text) (s : Text) : Prop :=
  ∀ {brackets brackets' : List Bracket} {reading reading' : Reading},
    List.Forall₂ Bracket.Alike brackets brackets' →
    Abreast f g (OperatorDue brackets) s reading reading' →
    (readFrom f reading brackets s).2 = (readFrom g reading' brackets' s).2

variable {f g : Text → Text} {c : Char} {s : Text}

/-- Brackets that are alike go on alike, or end alike with a value that has text. -/
theorem Bracket.Alike.take {b b' : Bracket} (h : b.Alike b') {value value' : Text}
    (same : b.op = none → c ≠ ']' → (value = [] ↔ value' = [])) :
    (∃ next next', b.take value c = .inl next ∧ b'.take value' c = .inl next' ∧
        next.op ≠ none ∧ next.Alike next') ∨
      ∃ result result', b.take value c = .inr result ∧ b'.take value' c = .inr result' ∧
        (result = [] ↔ result' = []) := by
  by_cases close : c = ']'
  · obtain ⟨result, left, -, text⟩ := b.take_close value
    obtain ⟨result', left', -, text'⟩ := b'.take_close value'
    rw [close]
    exact .inr ⟨result, result', left, left', iff_of_false text text'⟩
  · by_cases early : b.op = none ∧ value = []
    · obtain ⟨first, rfl⟩ := early
      obtain rfl := (same first close).mp rfl
      exact .inr ⟨unclosed, unclosed, take_early close first, take_early close (h.mp first),
        Iff.rfl⟩
    · obtain ⟨next, more, op⟩ := take_more close fun first empty => early ⟨first, empty⟩
      have text : b'.op = none → value' ≠ [] := fun first empty =>
        early ⟨h.mpr first, (same (h.mpr first) close).mpr empty⟩
      obtain ⟨next', more', op'⟩ := take_more close text
      exact .inl ⟨next, next', more, more', op, iff_of_false op op'⟩

/-- Readers that have a value hand it on and stay abreast. -/
theorem LeaveSame.closed (later : LeaveSame f g s) {brackets brackets' : List Bracket}
    (alike : List.Forall₂ Bracket.Alike brackets brackets') {value value' : Text}
    (same : OperatorDue brackets → c ≠ ']' → (value = [] ↔ value' = [])) :
    (readFrom f (.closed value) brackets (c :: s)).2 =
      (readFrom g (.closed value') brackets' (c :: s)).2 := by
  cases alike with
  | nil => rfl
  | @cons b b' brackets brackets' first rest =>
    rcases first.take fun op => same ⟨b, rfl, op⟩ with
      ⟨next, next', more, more', op, alike⟩ | ⟨result, result', left, left', text⟩
    · rw [readFrom_taken f brackets more, readFrom_taken g brackets' more']
      refine later (.cons alike rest) fun due => ?_
      obtain ⟨b, mem, unnamed⟩ := due
      obtain rfl := Option.some.inj mem
      exact absurd unnamed op
    · rw [readFrom_left f brackets left, readFrom_left g brackets' left']
      exact later rest fun _ _ _ _ => text

/-- Readers that are in the same word stay abreast. -/
theorem LeaveSame.word (later : LeaveSame f g s) {brackets brackets' : List Bracket}
    (alike : List.Forall₂ Bracket.Alike brackets brackets') {reversed : Text}
    (agree : OperatorDue brackets → ∀ word ∈ restOfWord? reversed (c :: s), AgreeOn f g word) :
    (readFrom f (.word reversed) brackets (c :: s)).2 =
      (readFrom g (.word reversed) brackets' (c :: s)).2 := by
  cases ends : endsWord c with
  | false =>
    rw [readFrom_goOn f brackets ends, readFrom_goOn g brackets' ends]
    rw [restOfWord?_goOn ends] at agree
    exact later alike ⟨rfl, agree⟩
  | true =>
    rw [readFrom_ended f brackets ends, readFrom_ended g brackets' ends]
    exact later.closed alike fun due other => agree due _ (restOfWord?_ended ends other reversed s)

/-- Readers that wait for a value stay abreast. -/
theorem LeaveSame.between (later : LeaveSame f g s) {brackets brackets' : List Bracket}
    (alike : List.Forall₂ Bracket.Alike brackets brackets')
    (agree : ∀ word ∈ operators (c :: s), AgreeOn f g word)
    (next : OperatorDue brackets → ∀ word ∈ operator? (c :: s), AgreeOn f g word) :
    (readFrom f .between brackets (c :: s)).2 = (readFrom g .between brackets' (c :: s)).2 := by
  cases blank : Text.isBlank c with
  | true =>
    rw [readFrom_blank f brackets blank, readFrom_blank g brackets' blank]
    rw [operator?_blank blank] at next
    exact later alike next
  | false =>
    by_cases opening : c = '['
    · subst opening
      rw [readFrom_open, readFrom_open]
      exact later (.cons Iff.rfl alike) fun _ word mem => agree word (mem_operators_open mem)
    · rw [readFrom_begin f brackets blank opening, readFrom_begin g brackets' blank opening]
      rw [operator?_begin blank opening] at next
      exact later.word alike next

/-- Readers that agree on the operators of a text stay abreast to its end. -/
theorem leaveSame (s : Text) (agree : ∀ word ∈ operators s, AgreeOn f g word) :
    LeaveSame f g s := by
  induction s with
  | nil => exact fun _ _ => rfl
  | cons c s ih =>
    have later : LeaveSame f g s := ih fun word mem => agree word (mem_operators_cons mem)
    intro brackets brackets' reading reading' alike abreast
    match reading, reading', abreast with
    | .between, .between, next => exact later.between alike agree next
    | .word reversed, .word _, ⟨rfl, next⟩ => exact later.word alike next
    | .closed value, .closed value', next =>
      exact later.closed alike fun due other => next due c rfl other

/-- A bracket with a variable as its operator and one operand. -/
def variableOperator (name : VariableName) : Text := '[' :: '$' :: name.text ++ " a]".toList

/-- Of a bracket with a variable as its operator, the end is not read where the variable has no
text. -/
theorem consumed_variableOperator (resolve : Text → Text) (name : VariableName) :
    consumed resolve (variableOperator name) =
      if resolve name.text = [] then name.text.length + 4 else name.text.length + 5 := by
  have plain : ∀ c ∈ '$' :: name.text, endsWord c = false :=
    List.forall_mem_cons.mpr ⟨rfl, name.plain⟩
  have start : ∀ c ∈ ('$' :: name.text).head?, Text.isBlank c = false :=
    fun c hc => Option.some.inj hc ▸ rfl
  have ends : EndsWord " a]".toList := fun c hc => Option.some.inj hc ▸ rfl
  have operator := readFrom_between resolve [{}] (List.cons_ne_nil _ _) plain start ends
  have opened : read resolve (variableOperator name) =
      readFrom resolve (.closed (resolve name.text)) [{}] " a]".toList := operator
  have length : (variableOperator name).length = name.text.length + 5 := by
    simp [variableOperator]
  rw [consumed, opened, length]
  cases text : resolve name.text with
  | nil => rfl
  | cons c value => rfl

/-- Two resolvers have the same number of characters of a text read if they agree on which of its
operators have text. Where they do not agree on a variable, there is a text of which they have
different numbers read. -/
theorem consumed_eq_of_agreeOn (f g : Text → Text) :
    (∀ s, (∀ word ∈ operators s, AgreeOn f g word) → consumed f s = consumed g s) ∧
      ∀ name : VariableName, ¬ (f name.text = [] ↔ g name.text = []) →
        consumed f (variableOperator name) ≠ consumed g (variableOperator name) := by
  constructor
  · intro s agree
    have same : (read f s).2 = (read g s).2 :=
      leaveSame s agree .nil fun due => absurd due (by rintro ⟨b, mem, -⟩; contradiction)
    rw [consumed, consumed, same]
  · intro name differ
    rw [consumed_variableOperator, consumed_variableOperator]
    by_cases blank : f name.text = []
    · have filled : g name.text ≠ [] := fun empty => differ (iff_of_true blank empty)
      rw [if_pos blank, if_neg filled]
      omega
    · have empty : g name.text = [] := not_not.mp fun filled => differ (iff_of_false blank filled)
      rw [if_neg blank, if_pos empty]
      omega

/-- The name of the first realm. -/
def firstRealm : VariableName := ⟨"REALM1", by simp [endsWord, Text.isControl]⟩

/-- A player without a realm and a priest have the same number of characters of a text read that
asks for the realm, but not of one with the realm as an operator. -/
theorem consumed_eq_of_agreeOn_firstRealm :
    let warrior : Player := {}
    let priest : Player := { profession := "Priest", realm1 := "Life" }
    let asked : Text := "[IOR [EQU $REALM1 Life] [NOT 1]] rings"
    (∀ word ∈ operators asked, AgreeOn warrior.resolve priest.resolve word) ∧
      consumed warrior.resolve asked = consumed priest.resolve asked ∧
      ¬ (warrior.resolve firstRealm.text = [] ↔ priest.resolve firstRealm.text = []) ∧
      consumed warrior.resolve (variableOperator firstRealm) ≠
        consumed priest.resolve (variableOperator firstRealm) := by
  intro warrior priest asked
  have agree : ∀ word ∈ operators asked, AgreeOn warrior.resolve priest.resolve word := by
    decide +kernel
  have differ : ¬ (warrior.resolve firstRealm.text = [] ↔ priest.resolve firstRealm.text = []) := by
    decide +kernel
  obtain ⟨same, other⟩ := consumed_eq_of_agreeOn warrior.resolve priest.resolve
  exact ⟨agree, same asked agree, differ, other firstRealm differ⟩

/-- Of one text, 10 characters are read for a player without a realm, and all 13 for a priest. -/
theorem consumed_realmOperator_ne :
    let asked : Text := "[$REALM1 a b]"
    consumed ({} : Player).resolve asked = 10 ∧
      consumed { profession := "Priest", realm1 := "Life" : Player }.resolve asked = 13 := by
  decide +kernel

end LootRules.Condition
