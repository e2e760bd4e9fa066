import LootRules.Proofs.Condition.Comparison
import LootRules.Proofs.Condition.Pieces
import LootRules.Proofs.Editor.Rewriting

/-!
# The condition for the player

The condition that the editor puts in asks for the race, the profession and the level of the
player. The level is always right, since it is compared with itself. Race and profession are put in
as they are, and each is compared with its pieces. So the condition is true for single words, and
for a race or a profession of several words it is false. The variable for the player's name stands
for a single word always, in which spaces and brackets have been replaced; those for race and
profession do not.
-/

namespace LootRules

open Condition

namespace Player

/-- The variable for the race. -/
def raceName : VariableName := .ofText "RACE" (by decide +kernel)

/-- The variable for the profession. -/
def professionName : VariableName := .ofText "CLASS" (by decide +kernel)

/-- The value of the variable for the race. -/
theorem resolve_raceName (p : Player) : p.resolve raceName.text = p.race := rfl

/-- The value of the variable for the profession. -/
theorem resolve_professionName (p : Player) : p.resolve professionName.text = p.profession := rfl

/-- The level of a player as a number that is written in a condition. -/
def levelNumber (p : Player) : Quantity :=
  .number (2 - (Text.decimal p.level.toNat).length) p.level.toUInt64

/-- What the editor asks for a player: a condition without its mark. -/
def question (p : Player) : Text :=
  bracket .and (bracket .equ ('$' :: raceName.text ++ ' ' :: p.race) ++
    ' ' :: (bracket .equ ('$' :: professionName.text ++ ' ' :: p.profession) ++
      ' ' :: comparison .geq [.level, p.levelNumber]))

/-- The player's race and profession are read back from the question. -/
def AskedRight (p : Player) : Prop := ReadBack p.resolve p.race ∧ ReadBack p.resolve p.profession

instance (p : Player) : Decidable p.AskedRight :=
  inferInstanceAs (Decidable (ReadBack p.resolve p.race ∧ ReadBack p.resolve p.profession))

/-- The level is written as a number. -/
theorem text_levelNumber (p : Player) : p.levelNumber.text = p.levelText := by
  change Text.numeral _ p.level.toUInt64.toNat = _
  rw [UInt32.toNat_toUInt64, levelText, Text.zeroPadded_eq_numeral]

/-- The line that is put in has the question as its condition. -/
theorem playerCondition_eq (p : Player) :
    Editor.playerCondition p = Condition.linePrefix ++ p.question := by
  -- Each literal is compared with the part that it stands for, and with no other.
  have parts (a b c d : Text) (opening : a = linePrefix ++ '[' :: (Operator.and.word ++
        ' ' :: '[' :: (Operator.equ.word ++ ' ' :: '$' :: (raceName.text ++ [' ']))))
      (next : b = ']' :: ' ' :: '[' ::
        (Operator.equ.word ++ ' ' :: '$' :: (professionName.text ++ [' '])))
      (last : c = ']' :: ' ' :: '[' ::
        (Operator.geq.word ++ ' ' :: (Quantity.level.text ++ [' '])))
      (close : d = [']', ']']) :
      a ++ p.race ++ b ++ p.profession ++ c ++ p.levelText ++ d = linePrefix ++ p.question := by
    simp only [opening, next, last, close, question, bracket, comparison, List.flatMap_cons,
      List.flatMap_nil, text_levelNumber, List.append_assoc, List.cons_append, List.nil_append]
  exact parts _ _ _ _ (by decide +kernel) (by decide +kernel) (by decide +kernel)
    (by decide +kernel)

/-- A level is not below itself. -/
theorem readsTo_level (p : Player) :
    ReadsTo p.resolve (comparison .geq [.level, p.levelNumber]) ['1'] := by
  have same : p.levelNumber.counted p = Quantity.level.counted p := by
    rw [Quantity.counted, Quantity.counted, Quantity.amount, levelNumber, Quantity.amount,
      UInt32.toNat_toUInt64]
  have means : (comparisonTree .geq [.level, p.levelNumber]).meaning Text.lenientInteger p.resolve =
      ['1'] := by
    rw [meaning_geq, List.map_cons, List.map_cons, List.map_nil, same]
    simp [truth]
  rw [← render_comparisonTree, ← means]
  exact readsTo_render _

/-- Without brackets in race and profession, the question is true just if both are read back. -/
theorem eval_question {p : Player} (race : Bracketless p.race)
    (profession : Bracketless p.profession) : p.eval p.question = truth p.AskedRight := by
  have level := p.readsTo_level.operands
  have inner := level.cons (readsTo_equation professionName p.resolve_professionName profession)
  have outer := inner.cons (readsTo_equation raceName p.resolve_raceName race)
  refine (outer.readsTo .and).eval_eq.trans (congrArg truth (decide_eq_decide.mpr ?_))
  have one : (['1'] : Text) ≠ ['0'] := by decide
  simp only [Operator.Holds, List.forall_mem_cons, List.not_mem_nil, false_imp_iff, implies_true,
    and_true, one, truth_ne_iff, decide_eq_true_iff, AskedRight, ne_eq, not_false_eq_true]

/-- Without brackets and dollar signs, race and profession have to be single words. -/
theorem askedRight_iff {p : Player} (race : '$' ∉ p.race) (profession : '$' ∉ p.profession) :
    p.AskedRight ↔ IsWord p.race ∧ IsWord p.profession :=
  and_congr (readBack_iff_isWord race) (readBack_iff_isWord profession)

end Player

namespace Editor

/-- A row with a condition is switched off just if that is false. -/
theorem Reachable.bypass_iff {e : Editor} (reached : e.Reachable) {row : Nat} {condition : Text}
    (inside : row < e.document.size) (line : e.document.line row = linePrefix ++ condition) :
    (e.document.state row).bypass ↔ e.player.eval condition = ['0'] := by
  have made := reached.document_eq
  rw [made] at inside line ⊢
  rw [Document.bypass_state_ofLines inside]
  exact Document.lastConditionFalse_of_condition line

/-- If there is room, lines are put in above the cursor. -/
theorem lines_insertLines {e : Editor} {lines : List Text} (nonempty : lines ≠ [])
    (room : e.document.size + lines.length ≤ e.limits.maxLines) (row col : Nat) :
    (e.insertLines lines row col).lines = e.lines.take e.row ++ lines ++ e.lines.drop e.row := by
  have written : e.lines.take e.row ++ lines ++ e.lines.drop e.row ≠ [] :=
    List.append_ne_nil_of_left_ne_nil (List.append_ne_nil_of_right_ne_nil _ nonempty) _
  rw [insertLines, if_neg (Nat.not_lt.mpr room)]
  exact lines_edit _ written _

/-- Each line that is put in has a row. -/
theorem line_of_lines {d : Document} {lines between : List Text} {row i : Nat}
    (put : d.lines = lines.take row ++ between ++ lines.drop row) (bound : row ≤ lines.length)
    (inside : i < between.length) : row + i < d.size ∧ d.line (row + i) = between[i] := by
  have above : (lines.take row).length = row := List.length_take_of_le bound
  constructor
  · rw [Document.size, put, List.length_append, List.length_append, above]
    omega
  · have shift : row + i - row = i := by omega
    rw [Document.line, put, List.getD_eq_getElem?_getD, List.append_assoc,
      List.getElem?_append_right (by omega), above, shift, List.getElem?_append_left inside,
      List.getElem?_eq_getElem inside, Option.getD_some]

/-- The two lines that are put in for the player are the question and a condition that is always
true. -/
theorem lines_insertConditional {e : Editor} (room : e.document.size + 2 ≤ e.limits.maxLines) :
    (e.apply .insertConditional).1.lines =
      e.lines.take e.row ++ [linePrefix ++ e.player.question, linePrefix ++ ['1']] ++
        e.lines.drop e.row := by
  let before := e.prepare .insertConditional
  have room' : before.document.size + 2 ≤ before.limits.maxLines := by
    rw [document_prepare, (alike_prepare e _).limits]
    exact room
  have row : before.row = e.row := congrArg (·.row) (prepare_eq e .insertConditional)
  have run : before.run .insertConditional =
      before.insertLines [playerCondition before.player, "?:1".toList] 1 0 := rfl
  have always : "?:1".toList = linePrefix ++ ['1'] := by decide +kernel
  rw [(text_apply run).2.2, lines_insertLines (List.cons_ne_nil _ _) room', always,
    Player.playerCondition_eq, (alike_prepare e _).player]
  change before.document.lines.take before.row ++ _ ++ before.document.lines.drop before.row = _
  rw [document_prepare, row]
  rfl

/-- The condition for the player is put in above the cursor, with one behind it that is always true.
So the row of the second is never switched off, and that of the first is if it comes to `0`. Where
race and profession have no brackets it does unless they are read back, and where they have no
dollar signs either, it is true just if they are single words. -/
theorem bypass_insertConditional {e : Editor} (reached : e.Reachable)
    (room : e.document.size + 2 ≤ e.limits.maxLines) :
    let e' := (e.apply .insertConditional).1
    let p := e'.player
    p = e.player ∧
    e'.lines =
      e.lines.take e.row ++ [linePrefix ++ p.question, linePrefix ++ ['1']] ++
        e.lines.drop e.row ∧
    ((e'.document.state e.row).bypass ↔ p.eval p.question = ['0']) ∧
    (e'.document.state (e.row + 1)).bypass = false ∧
    (Bracketless p.race → Bracketless p.profession →
      p.eval p.question = truth p.AskedRight ∧
        ('$' ∉ p.race → '$' ∉ p.profession →
          (p.AskedRight ↔ IsWord p.race ∧ IsWord p.profession))) ∧
    (IsWord p.race → IsWord p.profession → '$' ∉ p.race → '$' ∉ p.profession →
      p.eval p.question = ['1'] ∧ (e'.document.state e.row).bypass = false) := by
  intro e' p
  have reached' : e'.Reachable := reached.apply .insertConditional
  have same : p = e.player := (rewrites_apply reached.wellFormed .insertConditional).player
  have lines := lines_insertConditional room
  rw [← same] at lines
  have bound : e.row ≤ e.lines.length := Nat.le_of_lt reached.wellFormed.row_lt
  obtain ⟨inside, line⟩ := line_of_lines (i := 0) lines bound (Nat.zero_lt_succ _)
  obtain ⟨inside', line'⟩ := line_of_lines (i := 1) lines bound (Nat.lt_succ_self _)
  have first : (e'.document.state e.row).bypass ↔ p.eval p.question = ['0'] :=
    reached'.bypass_iff inside line
  refine ⟨same, lines, first, ?_, fun race profession => ⟨?_, ?_⟩, ?_⟩
  · rw [← Bool.not_eq_true, reached'.bypass_iff inside' line']
    change ¬ ['1'] = ['0']
    decide
  · exact Player.eval_question race profession
  · exact Player.askedRight_iff
  · intro race profession raceDollar professionDollar
    have right := (Player.askedRight_iff raceDollar professionDollar).mpr ⟨race, profession⟩
    have holds : p.eval p.question = ['1'] := by
      rw [Player.eval_question race.bracketless profession.bracketless, decide_eq_true right]
      rfl
    refine ⟨holds, ?_⟩
    rw [← Bool.not_eq_true, first, holds]
    decide

/-- An editor over a line, for a player. -/
def overRings (player : Player) : Editor := start ["rings".toList] player {}

/-- A dwarf who is a priest keeps the rings. -/
theorem bypass_insertConditional_dwarf :
    let p : Player := { race := "Dwarf", profession := "Priest", level := 5 }
    let e := overRings p
    let e' := (e.apply .insertConditional).1
    e.Reachable ∧ e.document.size + 2 ≤ e.limits.maxLines ∧
      IsWord p.race ∧ IsWord p.profession ∧ '$' ∉ p.race ∧ '$' ∉ p.profession ∧
      e'.lines =
        ["?:[AND [EQU $RACE Dwarf] [EQU $CLASS Priest] [GEQ $LEVEL 05]]".toList, "?:1".toList,
          "rings".toList] ∧
      p.eval p.question = ['1'] ∧ (e'.document.state 0).bypass = false ∧
      (e'.document.state 1).bypass = false := by
  intro p e e'
  have reached : e.Reachable := .start _ _ _
  have room : e.document.size + 2 ≤ e.limits.maxLines := by decide +kernel
  have race : IsWord p.race := by decide +kernel
  have profession : IsWord p.profession := by decide +kernel
  have raceDollar : '$' ∉ p.race := by decide +kernel
  have professionDollar : '$' ∉ p.profession := by decide +kernel
  obtain ⟨-, -, -, always, -, words⟩ := bypass_insertConditional reached room
  obtain ⟨holds, on⟩ := words race profession raceDollar professionDollar
  exact ⟨reached, room, race, profession, raceDollar, professionDollar, by decide +kernel, holds,
    on, always⟩

/-- The condition for a player whose race has two words is false, and switches itself off. -/
theorem bypass_insertConditional_highElf :
    let p : Player := { race := "High Elf", profession := "Mage" }
    let e := overRings p
    let e' := (e.apply .insertConditional).1
    e.document.size + 2 ≤ e.limits.maxLines ∧
      e'.lines =
        ["?:[AND [EQU $RACE High Elf] [EQU $CLASS Mage] [GEQ $LEVEL 01]]".toList, "?:1".toList,
          "rings".toList] ∧
      p.eval "[AND [EQU $RACE High Elf] [EQU $CLASS Mage] [GEQ $LEVEL 01]]" = ['0'] ∧
      (e'.document.state 0).bypass ∧ (e'.document.state 1).bypass = false := by
  decide +kernel

end Editor

end LootRules
