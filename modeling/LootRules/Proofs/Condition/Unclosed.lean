import LootRules.Proofs.Condition.Operators
import Mathlib.Data.List.Infix

/-!
# Brackets that are never closed

Whether a bracket is closed can be told by counting: it stays open as long as the text behind it has
no more closing brackets than opening ones. The reader does not count. It takes every closing
bracket for the end of the innermost one, but an opening bracket that stands right behind a word or
a closing bracket only for the end of what is before it, and it leaves a bracket early if its
operator has no text. Where neither happens, the reader and the count agree at every character: the
value is that of an unclosed bracket just if the count says that the bracket stays open.
-/

namespace LootRules.Condition

/-- Whether the word that goes on here is ended by an opening bracket. -/
def bracketEndsWord : Text → Bool
  | [] => false
  | c :: s => c = '[' || !endsWord c && bracketEndsWord s

/-- Whether some opening bracket stands right behind a word or a closing bracket. -/
def glued : Text → Bool
  | [] => false
  | c :: s =>
    (if c = ']' then s.head? = some '[' else !Text.isBlank c && !endsWord c && bracketEndsWord s) ||
      glued s

/-- With so many brackets open before it, no closing bracket of a text closes the last. -/
def StaysOpen (depth : Nat) (s : Text) : Prop :=
  ∀ p, p <+: s → p.count ']' < p.count '[' + depth

instance (depth : Nat) (s : Text) : Decidable (StaysOpen depth s) :=
  decidable_of_iff (∀ p ∈ s.inits, p.count ']' < p.count '[' + depth)
    (forall_congr' fun p => imp_congr_left (List.mem_inits p s))

variable {resolve : Text → Text} {depth : Nat} {c : Char} {s : Text}

/-- What holds of all starts of a text holds of the empty one and, with the first character, of all
starts of the rest. -/
theorem forall_prefix_cons {P : Text → Prop} :
    (∀ p, p <+: c :: s → P p) ↔ P [] ∧ ∀ p, p <+: s → P (c :: p) := by
  constructor
  · intro h
    exact ⟨h [] List.nil_prefix, fun p hp => h (c :: p) (List.cons_prefix_cons.mpr ⟨rfl, hp⟩)⟩
  · rintro ⟨first, longer⟩ p hp
    rcases List.prefix_cons_iff.mp hp with rfl | ⟨q, rfl, hq⟩
    · exact first
    · exact longer q hq

/-- A text without characters closes nothing. -/
theorem staysOpen_nil (positive : 0 < depth) : StaysOpen depth [] := by
  intro p hp
  rw [List.prefix_nil.mp hp]
  simpa using positive

/-- With no bracket open, none stays open. -/
theorem not_staysOpen_zero : ¬ StaysOpen 0 s := fun h =>
  absurd (h [] List.nil_prefix) (Nat.lt_irrefl 0)

/-- An opening bracket adds one to those that have to be closed. -/
theorem staysOpen_open (positive : 0 < depth) :
    StaysOpen depth ('[' :: s) ↔ StaysOpen (depth + 1) s := by
  rw [StaysOpen, forall_prefix_cons, and_iff_right (by simpa using positive)]
  refine forall₂_congr fun p _ => ?_
  rw [List.count_cons_of_ne (by decide), List.count_cons_self]
  omega

/-- A closing bracket closes one. -/
theorem staysOpen_close : StaysOpen (depth + 1) (']' :: s) ↔ StaysOpen depth s := by
  rw [StaysOpen, forall_prefix_cons, and_iff_right (by simp)]
  refine forall₂_congr fun p _ => ?_
  rw [List.count_cons_self, List.count_cons_of_ne (by decide)]
  omega

/-- Other characters do not count. -/
theorem staysOpen_other (positive : 0 < depth) (opening : c ≠ '[') (closing : c ≠ ']') :
    StaysOpen depth (c :: s) ↔ StaysOpen depth s := by
  rw [StaysOpen, forall_prefix_cons, and_iff_right (by simpa using positive)]
  refine forall₂_congr fun p _ => ?_
  rw [List.count_cons_of_ne closing, List.count_cons_of_ne opening]

/-- Blanks are no brackets. -/
theorem ne_of_isBlank (h : Text.isBlank c = true) : c ≠ '[' ∧ c ≠ ']' := by
  constructor <;> (rintro rfl; contradiction)

/-- The characters of a word are no brackets. -/
theorem ne_of_endsWord (h : endsWord c = false) : c ≠ '[' ∧ c ≠ ']' := by
  constructor <;> (rintro rfl; contradiction)

/-- A reader is where it does not lose count: no opening bracket ends the word or value that it is
at, and if that is to be the operator of a bracket, it will have text, unless the bracket ends with
it. -/
def Counts (resolve : Text → Text) (due : Prop) (s : Text) : Reading → Prop
  | .between => due → ∀ word ∈ operator? s, wordValue resolve word ≠ []
  | .word reversed => bracketEndsWord s = false ∧
    (due → ∀ word ∈ restOfWord? reversed s, wordValue resolve word ≠ [])
  | .closed value => s.head? ≠ some '[' ∧ (due → ∀ c ∈ s.head?, c ≠ ']' → value ≠ [])

/-- A reader that does not lose count gives a text the value of an unclosed bracket just if the
brackets before it stay open. -/
def TellsOpen (resolve : Text → Text) (s : Text) : Prop :=
  ∀ (b : Bracket) (bs : List Bracket) (reading : Reading), Counts resolve (b.op = none) s reading →
    ((readFrom resolve reading (b :: bs) s).1 = unclosed ↔ StaysOpen (bs.length + 1) s)

/-- When the last bracket is closed, its value is that of the text. -/
theorem readFrom_closed_nil (resolve : Text → Text) (value s : Text) :
    (readFrom resolve (.closed value) [] s).1 = value := by
  cases s <;> rfl

namespace TellsOpen

/-- At a value the reader closes a bracket at a closing bracket, and otherwise goes on in it. -/
theorem closed (later : TellsOpen resolve s) (apart : glued (c :: s) = false) {b : Bracket}
    {bs : List Bracket} {value : Text}
    (counts : Counts resolve (b.op = none) (c :: s) (.closed value)) :
    (readFrom resolve (.closed value) (b :: bs) (c :: s)).1 = unclosed ↔
      StaysOpen (bs.length + 1) (c :: s) := by
  obtain ⟨first, text⟩ := counts
  have opening : c ≠ '[' := fun same => first (congrArg some same)
  by_cases closing : c = ']'
  · subst closing
    obtain ⟨result, left, closed, nonempty⟩ := b.take_close value
    rw [readFrom_left resolve bs left, staysOpen_close]
    cases bs with
    | nil =>
      rw [readFrom_closed_nil]
      exact iff_of_false closed not_staysOpen_zero
    | cons b' bs =>
      refine later b' bs (.closed result) ⟨?_, fun _ _ _ _ => nonempty⟩
      rw [glued, if_pos rfl, Bool.or_eq_false_iff, decide_eq_false_iff_not] at apart
      exact apart.1
  · obtain ⟨b', more, op⟩ := Bracket.take_more closing fun due => text due c rfl closing
    rw [readFrom_taken resolve bs more, staysOpen_other (Nat.succ_pos _) opening closing]
    exact later b' bs .between fun due => absurd due op

/-- In a word the reader goes on to its end. -/
theorem word (later : TellsOpen resolve s) (apart : glued (c :: s) = false) {b : Bracket}
    {bs : List Bracket} {reversed : Text}
    (counts : Counts resolve (b.op = none) (c :: s) (.word reversed)) :
    (readFrom resolve (.word reversed) (b :: bs) (c :: s)).1 = unclosed ↔
      StaysOpen (bs.length + 1) (c :: s) := by
  obtain ⟨free, text⟩ := counts
  rw [bracketEndsWord, Bool.or_eq_false_iff, decide_eq_false_iff_not] at free
  cases ends : endsWord c with
  | false =>
    obtain ⟨opening, closing⟩ := ne_of_endsWord ends
    rw [readFrom_goOn resolve (b :: bs) ends, staysOpen_other (Nat.succ_pos _) opening closing]
    rw [restOfWord?_goOn ends] at text
    refine later b bs _ ⟨?_, text⟩
    simpa [ends] using free.2
  | true =>
    rw [readFrom_ended resolve (b :: bs) ends]
    refine later.closed apart ⟨fun same => free.1 (Option.some.inj same), ?_⟩
    intro due d mem other
    obtain rfl := Option.some.inj mem
    exact text due _ (restOfWord?_ended ends other reversed s)

/-- Between values the reader passes over blanks, opens brackets and begins words. -/
theorem between (later : TellsOpen resolve s) (apart : glued (c :: s) = false)
    (filled : ∀ word ∈ operators (c :: s), wordValue resolve word ≠ []) {b : Bracket}
    {bs : List Bracket} (counts : Counts resolve (b.op = none) (c :: s) .between) :
    (readFrom resolve .between (b :: bs) (c :: s)).1 = unclosed ↔
      StaysOpen (bs.length + 1) (c :: s) := by
  cases blank : Text.isBlank c with
  | true =>
    obtain ⟨opening, closing⟩ := ne_of_isBlank blank
    rw [readFrom_blank resolve (b :: bs) blank, staysOpen_other (Nat.succ_pos _) opening closing]
    rw [Counts, operator?_blank blank] at counts
    exact later b bs .between counts
  | false =>
    by_cases opening : c = '['
    · subst opening
      rw [readFrom_open, staysOpen_open (Nat.succ_pos _)]
      exact later {} (b :: bs) .between fun _ word mem => filled word (mem_operators_open mem)
    · rw [readFrom_begin resolve (b :: bs) blank opening]
      rw [Counts, operator?_begin blank opening] at counts
      refine later.word apart ⟨?_, counts⟩
      rw [bracketEndsWord, Bool.or_eq_false_iff, decide_eq_false_iff_not]
      refine ⟨opening, ?_⟩
      by_cases closing : c = ']'
      · rw [closing]
        rfl
      · rw [glued, if_neg closing, Bool.or_eq_false_iff, blank, Bool.not_false,
          Bool.true_and] at apart
        exact apart.1

end TellsOpen

/-- Where no opening bracket is glued to what is before it and operators have text, the reader does
not lose count. -/
theorem tellsOpen (s : Text) (apart : glued s = false)
    (filled : ∀ word ∈ operators s, wordValue resolve word ≠ []) : TellsOpen resolve s := by
  induction s with
  | nil => exact fun b bs reading _ => iff_of_true rfl (staysOpen_nil (Nat.succ_pos _))
  | cons c s ih =>
    have rest : glued s = false := (Bool.or_eq_false_iff.mp apart).2
    have later := ih rest fun word mem => filled word (mem_operators_cons mem)
    intro b bs reading counts
    match reading, counts with
    | .between, counts => exact later.between apart filled counts
    | .word reversed, counts => exact later.word apart counts
    | .closed value, counts => exact later.closed apart counts

/-- A bracket behind blanks has the value of an unclosed one just if it stays open. -/
theorem eval_eq_unclosed_iff {blanks t : Text} (leading : ∀ c ∈ blanks, Text.isBlank c = true)
    (apart : glued t = false)
    (filled : ∀ word ∈ operators ('[' :: t), wordValue resolve word ≠ []) :
    eval resolve (blanks ++ '[' :: t) = unclosed ↔ StaysOpen 1 t := by
  have skipped : read resolve (blanks ++ '[' :: t) = readFrom resolve .between [{}] t := by
    rw [read]
    induction blanks with
    | nil => rfl
    | cons c blanks ih =>
      obtain ⟨blank, rest⟩ := List.forall_mem_cons.mp leading
      rw [List.cons_append, readFrom_blank resolve [] blank]
      exact ih rest
  rw [eval, skipped]
  refine tellsOpen t apart (fun word mem => filled word (mem_operators_cons mem)) {} [] .between ?_
  exact fun _ word mem => filled word (mem_operators_open mem)

end LootRules.Condition
