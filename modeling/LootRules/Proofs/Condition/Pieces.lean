import LootRules.Proofs.Condition.Operators

/-!
# Texts put into a condition

A text that is put into a condition as it is need not be read as one value. It falls into pieces at
the characters that end words. Each piece is a value of its own, without the blanks in front of it,
and that of a variable if it then begins with a dollar sign. Without brackets in the text, that is
all that can happen.

So an equation between a variable and the text that it stands for can be false. It is true just if
one of the pieces has all of the text as its value, which for texts without dollar signs means that
the text is a single word.
-/

namespace LootRules.Condition

variable {resolve : Text → Text} {c : Char} {s value word rest : Text} {values : List Text}

/-! ## Values in brackets -/

/-- A text is read as a value up to a character that ends a word, whatever brackets are open. -/
def ReadsTo (resolve : Text → Text) (s value : Text) : Prop :=
  ∀ (brackets : List Bracket) (tail : Text), EndsWord tail →
    readFrom resolve .between brackets (s ++ tail) =
      readFrom resolve (.closed value) brackets tail

/-- Behind the operator of a bracket, a text is read as operands up to the closing bracket. -/
def ReadsOperands (resolve : Text → Text) (s : Text) (values : List Text) : Prop :=
  ∀ (op : Text) (operands : List Text) (brackets : List Bracket) (rest : Text),
    readFrom resolve .between (⟨some op, operands⟩ :: brackets) (s ++ ']' :: rest) =
      readFrom resolve (.closed (apply op (operands.reverse ++ values))) brackets rest

/-- An operator with a text behind it, in brackets. -/
def bracket (o : Operator) (s : Text) : Text := '[' :: (o.word ++ ' ' :: (s ++ [']']))

/-- A text ends a word if its first character does. -/
theorem endsWord_cons (ends : endsWord c = true) (s : Text) : EndsWord (c :: s) :=
  fun _ first => Option.some.inj first ▸ ends

/-- A tree is read as what it means, with the lenient numbers. -/
theorem readsTo_render (t : Expression) :
    ReadsTo resolve t.render (t.meaning Text.lenientInteger resolve) :=
  fun brackets _ ends => readFrom_render resolve t brackets ends

/-- The text of a truth value is not `0` just if it is true. -/
theorem truth_ne_iff (b : Bool) : truth b ≠ ['0'] ↔ b = true := by
  cases b <;> decide

/-- The value of a condition is what it is read as. -/
theorem ReadsTo.eval_eq (h : ReadsTo resolve s value) : eval resolve s = value := by
  have whole := h [] [] nofun
  rw [List.append_nil] at whole
  rw [eval, read, whole]
  rfl

/-- A text that is read as a value is the last operand. -/
theorem ReadsTo.operands (h : ReadsTo resolve s value) : ReadsOperands resolve s [value] := by
  intro op operands brackets rest
  rw [h _ _ (endsWord_cons rfl rest)]
  exact readFrom_left resolve brackets rfl rest

/-- A text that is read as a value is an operand in front of others. -/
theorem ReadsOperands.cons (h : ReadsOperands resolve s values)
    (first : ReadsTo resolve word value) :
    ReadsOperands resolve (word ++ ' ' :: s) (value :: values) := by
  intro op operands brackets rest
  rw [List.append_assoc, List.cons_append, first _ _ (endsWord_cons rfl _),
    readFrom_operand_space, h, List.reverse_cons, List.append_assoc]
  rfl

/-- A bracket is read as what its operator comes to. -/
theorem ReadsOperands.readsTo (h : ReadsOperands resolve s values) (o : Operator) :
    ReadsTo resolve (bracket o s) (truth (o.Holds Text.lenientInteger values)) := by
  intro brackets tail _
  have written : bracket o s ++ tail = '[' :: (o.word ++ ' ' :: (s ++ ']' :: tail)) := by
    simp only [bracket, List.cons_append, List.append_assoc, List.nil_append]
  have operator : ReadsTo resolve o.word o.word := readsTo_render (.literal o.literal)
  have text : o.word ≠ [] := o.literal.ne_nil
  rw [written, readFrom_open, operator _ _ (endsWord_cons rfl _),
    readFrom_operator_space resolve text, h, apply_word]
  rfl

/-! ## Pieces -/

/-- The values of the pieces of a text. -/
def pieceValues (resolve : Text → Text) (s : Text) : List Text :=
  (s.splitOnP endsWord).map fun piece => wordValue resolve (Text.trimStart piece)

/-- A text is the value of one of its pieces. -/
def ReadBack (resolve : Text → Text) (s : Text) : Prop := s ∈ pieceValues resolve s

instance (resolve : Text → Text) (s : Text) : Decidable (ReadBack resolve s) :=
  inferInstanceAs (Decidable (_ ∈ _))

/-- A text has no brackets. -/
def Bracketless (s : Text) : Prop := ∀ c ∈ s, c ≠ '[' ∧ c ≠ ']'

instance (s : Text) : Decidable (Bracketless s) := List.decidableBAll _ s

/-- A text is read as a single word: nothing in it ends one, and it does not begin with a blank. -/
structure IsWord (s : Text) : Prop where
  plain : ∀ c ∈ s, endsWord c = false
  start : ∀ c ∈ s.head?, Text.isBlank c = false

instance (s : Text) : Decidable (IsWord s) :=
  decidable_of_iff (s.all (!endsWord ·) ∧ s.head?.all (!Text.isBlank ·))
    ⟨fun ⟨plain, start⟩ => ⟨by simpa using plain, by simpa [Option.all_eq_true] using start⟩,
      fun h => ⟨by simpa using h.plain, by simpa [Option.all_eq_true] using h.start⟩⟩

/-- A word has no brackets. -/
theorem IsWord.bracketless (h : IsWord s) : Bracketless s := by
  intro c mem
  have plain := h.plain c mem
  constructor <;> (rintro rfl; contradiction)

/-- A word has no blanks in front. -/
theorem IsWord.trimStart_eq (h : IsWord s) : Text.trimStart s = s := by
  cases s with
  | nil => rfl
  | cons c s => exact List.dropWhile_cons_of_neg (Bool.eq_false_iff.mp (h.start c rfl))

/-- A word is its only piece. -/
theorem IsWord.pieceValues_eq (h : IsWord word) :
    pieceValues resolve word = [wordValue resolve word] := by
  rw [pieceValues, List.splitOnP_eq_singleton h.plain, List.map_singleton, h.trimStart_eq]

/-- Up to what ends it, a word is the first piece. -/
theorem IsWord.pieceValues_append (h : IsWord word) (ends : endsWord c = true) (s : Text) :
    pieceValues resolve (word ++ c :: s) = wordValue resolve word :: pieceValues resolve s := by
  rw [pieceValues, List.splitOnP_append_cons_of_forall_mem h.plain c ends, List.map_cons,
    h.trimStart_eq]
  rfl

/-- A blank in front makes no difference to pieces with text. -/
theorem mem_pieceValues_blank (blank : Text.isBlank c = true) {v : Text} (text : v ≠ []) :
    v ∈ pieceValues resolve (c :: s) ↔ v ∈ pieceValues resolve s := by
  cases ends : endsWord c with
  | true =>
    have emptyWord : IsWord [] := ⟨nofun, nofun⟩
    have first : pieceValues resolve (c :: s) = [] :: pieceValues resolve s :=
      emptyWord.pieceValues_append ends s
    rw [first, List.mem_cons, or_iff_right text]
  | false =>
    obtain ⟨piece, pieces, split⟩ := List.exists_cons_of_ne_nil (List.splitOnP_ne_nil endsWord s)
    have trimmed : Text.trimStart (c :: piece) = Text.trimStart piece :=
      List.dropWhile_cons_of_pos blank
    rw [pieceValues, pieceValues, List.splitOnP_cons_eq_if_modifyHead, ends,
      if_neg Bool.false_ne_true, split, List.modifyHead_cons, List.map_cons, List.map_cons,
      trimmed]

/-- A piece is made of characters of the text that end no word. -/
theorem of_mem_splitOnP {piece : Text} (h : piece ∈ s.splitOnP endsWord) :
    ∀ c ∈ piece, c ∈ s ∧ endsWord c = false := by
  induction s generalizing piece with
  | nil =>
    obtain rfl := List.mem_singleton.mp h
    exact nofun
  | cons d s ih =>
    have later {piece : Text} (h : piece ∈ s.splitOnP endsWord) (c : Char) (mem : c ∈ piece) :
        c ∈ d :: s ∧ endsWord c = false :=
      ⟨List.mem_cons_of_mem d (ih h c mem).1, (ih h c mem).2⟩
    rw [List.splitOnP_cons_eq_if_modifyHead] at h
    split at h
    · rcases List.mem_cons.mp h with rfl | behind
      · exact nofun
      · exact later behind
    · next goes =>
      obtain ⟨first, pieces, split⟩ := List.exists_cons_of_ne_nil (List.splitOnP_ne_nil endsWord s)
      rw [split, List.modifyHead_cons] at h
      rcases List.mem_cons.mp h with rfl | behind
      · intro c mem
        rcases List.mem_cons.mp mem with rfl | mem
        · exact ⟨List.mem_cons_self, Bool.eq_false_iff.mpr goes⟩
        · exact later (split ▸ List.mem_cons_self) c mem
      · exact later (split ▸ List.mem_cons_of_mem first behind)

/-- Only a variable has another value than itself. -/
theorem wordValue_of_not_mem (h : '$' ∉ word) : wordValue resolve word = word := by
  unfold wordValue
  split
  · exact absurd List.mem_cons_self h
  · rfl

/-- A text without dollar signs is read back just if it is a single word. -/
theorem readBack_iff_isWord (h : '$' ∉ s) : ReadBack resolve s ↔ IsWord s := by
  constructor
  · intro back
    obtain ⟨piece, mem, value⟩ := List.mem_map.mp back
    have whole : Text.trimStart piece = s := by
      rw [wordValue_of_not_mem] at value
      · exact value
      · intro dollar
        exact h (of_mem_splitOnP mem '$' ((List.dropWhile_sublist _).subset dollar)).1
    refine ⟨fun c inside => ?_, ?_⟩
    · rw [← whole] at inside
      exact (of_mem_splitOnP mem c ((List.dropWhile_sublist _).subset inside)).2
    · rw [← whole]
      exact Text.eq_false_of_mem_head?_dropWhile Text.isBlank piece
  · intro word
    rw [ReadBack, word.pieceValues_eq, wordValue_of_not_mem h]
    exact List.mem_singleton_self s

/-- A word is read up to what ends it, also if it has no text. -/
theorem IsWord.readFrom_eq (h : IsWord word) (ends : EndsWord rest)
    (seen : word = [] → ∀ c ∈ rest.head?, Text.isBlank c = false ∧ c ≠ '[')
    (brackets : List Bracket) :
    readFrom resolve .between brackets (word ++ rest) =
      readFrom resolve (.closed (wordValue resolve word)) brackets rest := by
  cases word with
  | cons c word =>
    exact readFrom_between resolve brackets (List.cons_ne_nil c word) h.plain h.start ends
  | nil =>
    cases rest with
    | nil => cases brackets <;> rfl
    | cons c rest =>
      obtain ⟨blank, opening⟩ := seen rfl c rfl
      exact (readFrom_begin resolve brackets blank opening rest).trans
        (readFrom_word resolve [] brackets h.plain ends)

/-- In a bracket that has its operator, a text is read as operands, which are the values of its
pieces but for some without text. -/
structure ReadsAs (resolve : Text → Text) (s : Text) (values : List Text) : Prop where
  mem_iff : ∀ v, (v = [] → s = []) → (v ∈ values ↔ v ∈ pieceValues resolve s)
  operands : ReadsOperands resolve s values

/-- A word in front of the closing bracket is the last operand. -/
theorem IsWord.readsAs (h : IsWord word) : ReadsAs resolve word [wordValue resolve word] where
  mem_iff v _ := by rw [h.pieceValues_eq]
  operands op operands brackets rest := by
    have ends : EndsWord (']' :: rest) := endsWord_cons rfl rest
    have seen : ∀ c ∈ (']' :: rest).head?, Text.isBlank c = false ∧ c ≠ '[' := fun c first =>
      Option.some.inj first ▸ by decide
    rw [h.readFrom_eq ends fun _ => seen]
    exact readFrom_left resolve brackets rfl rest

/-- A blank in front is passed over. -/
theorem ReadsAs.blank (h : ReadsAs resolve s values)
    (blank : Text.isBlank c = true) : ReadsAs resolve (c :: s) values where
  mem_iff v text := by
    have nonempty : v ≠ [] := fun empty => List.cons_ne_nil c s (text empty)
    rw [mem_pieceValues_blank blank nonempty]
    exact h.mem_iff v fun empty => absurd empty nonempty
  operands op operands brackets rest := by
    rw [List.cons_append, readFrom_blank resolve _ blank]
    exact h.operands op operands brackets rest

/-- A word in front of another character that ends it is the next operand. -/
theorem ReadsAs.append (h : ReadsAs resolve s values) (isWord : IsWord word)
    (ends : endsWord c = true) (other : c ≠ '[' ∧ c ≠ ']')
    (seen : word = [] → Text.isBlank c = false) :
    ReadsAs resolve (word ++ c :: s) (wordValue resolve word :: values) where
  mem_iff v text := by
    have nonempty : v ≠ [] := fun empty =>
      List.append_ne_nil_of_right_ne_nil word (List.cons_ne_nil c s) (text empty)
    rw [isWord.pieceValues_append ends, List.mem_cons, List.mem_cons,
      h.mem_iff v fun empty => absurd empty nonempty]
  operands op operands brackets rest := by
    have ended : EndsWord (c :: (s ++ ']' :: rest)) := endsWord_cons ends _
    have taken : Bracket.take ⟨some op, operands⟩ (wordValue resolve word) c =
        .inl ⟨some op, wordValue resolve word :: operands⟩ := by
      simp only [Bracket.take, other.2, if_false]
    rw [List.append_assoc, List.cons_append, isWord.readFrom_eq ended, readFrom_taken _ _ taken,
      h.operands, List.reverse_cons, List.append_assoc]
    · rfl
    · intro bare d first
      obtain rfl := Option.some.inj first
      exact ⟨seen bare, other.1⟩

/-- A text without brackets is read as operands. -/
theorem exists_readsAs (resolve : Text → Text) {s : Text} (free : Bracketless s) :
    ∃ values, ReadsAs resolve s values := by
  -- A blank is one step, and so is a word with what ends it: the length is what gets less.
  induction n : s.length using Nat.strongRecOn generalizing s with
  | ind n ih =>
    subst n
    cases s with
    | nil => exact ⟨_, IsWord.readsAs ⟨nofun, nofun⟩⟩
    | cons c s =>
      cases blank : Text.isBlank c with
      | true =>
        have behind : Bracketless s := fun d mem => free d (List.mem_cons_of_mem c mem)
        obtain ⟨values, reads⟩ := ih s.length (Nat.lt_succ_self _) behind rfl
        exact ⟨values, reads.blank blank⟩
      | false =>
        have split := List.takeWhile_append_dropWhile (p := (!endsWord ·)) (l := c :: s)
        have plain : ∀ d ∈ (c :: s).takeWhile (!endsWord ·), endsWord d = false := fun _ =>
          endsWord_of_mem_takeWhile
        have stop := endsWord_dropWhile (c :: s)
        generalize (c :: s).takeWhile (!endsWord ·) = word at split plain
        generalize (c :: s).dropWhile (!endsWord ·) = tail at split stop
        have start : ∀ d ∈ word.head?, Text.isBlank d = false := fun d first => by
          cases word with
          | nil => cases first
          | cons e word =>
            obtain rfl := Option.some.inj first
            exact (List.cons.inj split).1 ▸ blank
        have isWord : IsWord word := ⟨plain, start⟩
        cases tail with
        | nil =>
          rw [← split, List.append_nil]
          exact ⟨_, isWord.readsAs⟩
        | cons d tail =>
          have ends : endsWord d = true := stop d rfl
          have inside : d ∈ c :: s := split ▸ List.mem_append_right word List.mem_cons_self
          have behind : Bracketless tail := fun e mem =>
            free e (split ▸ List.mem_append_right word (List.mem_cons_of_mem d mem))
          have shorter : tail.length < (c :: s).length := by
            rw [← split, List.length_append, List.length_cons]
            omega
          have seen : word = [] → Text.isBlank d = false := by
            rintro rfl
            exact (List.cons.inj split).1 ▸ blank
          obtain ⟨values, reads⟩ := ih tail.length shorter behind rfl
          rw [← split]
          exact ⟨_, reads.append isWord ends (free d inside) seen⟩

/-- An equation between a variable and the text that it stands for is true just if the text is read
back. -/
theorem readsTo_equation (name : VariableName) (value : resolve name.text = s)
    (free : Bracketless s) :
    ReadsTo resolve (bracket .equ ('$' :: name.text ++ ' ' :: s)) (truth (ReadBack resolve s)) := by
  obtain ⟨values, reads⟩ := exists_readsAs resolve free
  have variable' : ReadsTo resolve ('$' :: name.text) s := value ▸ readsTo_render (.named name)
  have equal : Operator.equ.Holds Text.lenientInteger (s :: values) ↔ ReadBack resolve s := by
    rw [ReadBack, ← reads.mem_iff s id]
    simp [Operator.Holds]
  have read := (reads.operands.cons variable').readsTo .equ
  rw [decide_eq_decide.mpr equal] at read
  exact read

end LootRules.Condition
