import LootRules.Inspector.Report
import LootRules.Proofs.LineStates

/-!
# Three readings of a file agree

The lines of a file are read in three places: the rule set takes the rules that are switched on,
a document works out which lines are switched off, and the inspector says of every line how it
reads. Each passes over the lines in its own way and carries the condition in force by itself.
They agree: the rule set has exactly the rules of the lines that are not switched off in the
document, and the inspector calls exactly the lines with a rule rules, and says of each whether
it is switched off.

Each of the three is compared with one list, in which every line that is a rule stands with its
state; for a line that is none, it does not matter by which of the tests it is passed over.
-/

namespace LootRules

namespace Rule

/-- A line of another kind of preference is no rule. -/
theorem parse_of_isForeign {line : Text} (h : isForeign line) (allowEmpty : Bool) :
    parse line allowEmpty = none :=
  if_pos h

/-- A line with nothing before its inscription is no rule. -/
theorem parse_of_empty {line : Text} (native : isForeign line = false)
    (empty : (Text.splitFirst '#' (readMarks {} line).2).1 = []) : parse line false = none := by
  simp only [parse, native, empty, Bool.false_eq_true, if_false, List.isEmpty_nil, Bool.not_false,
    Bool.true_or, Bool.and_self, if_true]

/-- A comment is no rule: before the inscription it has nothing. -/
theorem parse_comment {line : Text} (h : line.head? = some '#') : parse line false = none := by
  obtain ⟨rest, rfl⟩ := List.head?_eq_some_iff.mp h
  have native : isForeign ('#' :: rest) = false := by
    unfold isForeign
    split
    · next mark _ same =>
      obtain rfl := (List.cons.inj same).1
      rfl
    · rfl
  exact parse_of_empty native rfl

/-- A condition is no rule. -/
theorem parse_condition {line condition : Text} (h : Condition.ofLine? line = some condition) :
    parse line false = none := by
  rw [Condition.ofLine?_eq_some_iff.mp h]
  exact parse_of_isForeign rfl false

/-- A line that includes another file is no rule. -/
theorem parse_include {line : Text} (h : RuleSet.includePrefix.isPrefixOf line) :
    parse line false = none := by
  obtain ⟨path, rfl⟩ := List.isPrefixOf_iff_prefix.mp h
  exact parse_of_isForeign rfl false

end Rule

namespace LineState

variable {player : Player} {above : LineState} {line : Text}

/-- A condition switches its own line and the lines below. -/
theorem bypass_next_of_condition {condition : Text}
    (h : Condition.ofLine? line = some condition) :
    (above.next player line).bypass = Condition.isFalse (player.eval condition) := by
  rw [next, h]

/-- Any other line is switched off with the line above. -/
theorem bypass_next_of_none (h : Condition.ofLine? line = none) :
    (above.next player line).bypass = above.bypass := by
  rw [next, h]

end LineState

/-- An empty line or a comment is neither a condition nor a rule. -/
theorem silent {line : Text} (h : line.isEmpty = true ∨ line.head? = some '#') :
    Condition.ofLine? line = none ∧ Rule.parse line false = none := by
  rcases h with empty | comment
  · obtain rfl := List.isEmpty_iff.mp empty
    exact ⟨rfl, rfl⟩
  · refine ⟨?_, Rule.parse_comment comment⟩
    obtain ⟨rest, rfl⟩ := List.head?_eq_some_iff.mp comment
    rfl

/-- A line adds its rule to the active rules unless it is switched off, and the lines below are
read in its state. -/
theorem RuleSet.activeRules_cons (player : Player) (above : LineState) (line : Text)
    (lines : List Text) :
    activeRules player above.bypass (line :: lines) =
      let state := above.next player line
      (if state.bypass then none else Rule.parse line false).toList ++
        activeRules player state.bypass lines := by
  rw [activeRules]
  dsimp only
  split
  · next passed =>
    rw [Bool.or_eq_true, decide_eq_true_iff] at passed
    obtain ⟨noCondition, noRule⟩ := silent passed
    rw [LineState.bypass_next_of_none noCondition, noRule, ite_self]
    rfl
  · cases holds : Condition.ofLine? line with
    | some condition =>
      rw [LineState.bypass_next_of_condition holds, Rule.parse_condition holds, ite_self]
      rfl
    | none =>
      rw [LineState.bypass_next_of_none holds]
      dsimp only
      split
      · next passed =>
        rw [Bool.or_eq_true] at passed
        rcases passed with other | off
        · rw [Rule.parse_include other, ite_self]
          rfl
        · rw [if_pos off]
          rfl
      · next kept =>
        rw [Bool.or_eq_true, not_or] at kept
        rw [if_neg kept.2]

/-- The active rules are those of the lines that are not switched off. -/
theorem RuleSet.activeRules_eq (player : Player) (above : LineState) (lines : List Text) :
    activeRules player above.bypass lines =
      (lines.zip (lineStatesAfter player above.bypass above.autoregister lines)).filterMap
        fun (line, state) => if state.bypass then none else Rule.parse line false := by
  induction lines generalizing above with
  | nil => rfl
  | cons line lines ih =>
    rw [activeRules_cons, lineStatesAfter_cons]
    dsimp only
    rw [ih, List.zip_cons_cons, List.filterMap_cons]
    dsimp only
    cases (if (above.next player line).bypass then none else Rule.parse line false) with
    | none => rfl
    | some r => rfl

namespace Verdict

/-- The canonical line of what is called a rule, and whether it is switched off. -/
def rule? : Verdict → Option (Text × Bool)
  | rule canonical off => some (canonical, off)
  | _ => none

/-- A line is called a rule if it is one, with its state, and the lines below are read in that
state. -/
theorem classifyAfter_cons (player : Player) (above : LineState) (line : Text)
    (lines : List Text) :
    (classifyAfter player above.bypass (line :: lines)).map rule? =
      let state := above.next player line
      (Rule.parse line false).map (fun r => (r.render, state.bypass)) ::
        (classifyAfter player state.bypass lines).map rule? := by
  rw [classifyAfter]
  dsimp only
  split
  · next blank =>
    obtain ⟨noCondition, noRule⟩ := silent (.inl blank)
    rw [LineState.bypass_next_of_none noCondition, noRule]
    rfl
  · split
    · next comment =>
      obtain ⟨noCondition, noRule⟩ := silent (.inr comment)
      rw [LineState.bypass_next_of_none noCondition, noRule]
      rfl
    · cases holds : Condition.ofLine? line with
      | some condition =>
        rw [LineState.bypass_next_of_condition holds, Rule.parse_condition holds]
        rfl
      | none =>
        rw [LineState.bypass_next_of_none holds]
        dsimp only
        rw [List.map_cons]
        congr 1
        split
        · next foreign =>
          rw [Rule.parse_of_isForeign foreign]
          rfl
        · cases Rule.parse line false with
          | none => rfl
          | some r => rfl

/-- The lines that are called rules are the lines with a rule, each with its state. -/
theorem map_rule?_classifyAfter (player : Player) (above : LineState) (lines : List Text) :
    (classifyAfter player above.bypass lines).map rule? =
      (lines.zip (lineStatesAfter player above.bypass above.autoregister lines)).map
        fun (line, state) => (Rule.parse line false).map fun r => (r.render, state.bypass) := by
  induction lines generalizing above with
  | nil => rfl
  | cons line lines ih =>
    rw [classifyAfter_cons, lineStatesAfter_cons]
    dsimp only
    rw [ih, List.zip_cons_cons, List.map_cons]

/-- What is called a rule has the canonical line and the state that it is called with. -/
theorem rule?_eq_some_iff {v : Verdict} {canonical : Text} {off : Bool} :
    v.rule? = some (canonical, off) ↔ v = rule canonical off := by
  cases v with
  | rule canonical' off' => simp only [rule?, Option.some.injEq, Prod.mk.injEq, rule.injEq]
  | _ => exact ⟨nofun, nofun⟩

/-- Whether a line is called a rule that is switched on. -/
def isActiveRule (v : Verdict) : Bool := v.rule?.any fun (_, off) => !off

end Verdict

namespace Document

variable (player : Player) (lines : List Text)

/-- The active rules are those of the rows that are not switched off. -/
theorem rules_eq_filterMap :
    (RuleSet.ofLines player lines).rules =
      ((ofLines player lines).lines.zip (ofLines player lines).states).filterMap
        fun (line, state) => if state.bypass then none else Rule.parse line false := by
  cases lines with
  | nil => rfl
  | cons line lines => exact RuleSet.activeRules_eq player {} (line :: lines)

/-- A row and its state stand beside each other. -/
theorem getElem?_zip {row : Nat} (h : row < (ofLines player lines).size) :
    ((ofLines player lines).lines.zip (ofLines player lines).states)[row]? =
      some ((ofLines player lines).line row, (ofLines player lines).state row) := by
  have states : row < (ofLines player lines).states.length := by
    rw [ofLines_states_length]
    exact h
  rw [List.getElem?_zip_eq_some, line, state, List.getD_eq_getElem?_getD,
    List.getD_eq_getElem?_getD, List.getElem?_eq_getElem h, List.getElem?_eq_getElem states]
  exact ⟨rfl, rfl⟩

/-- The rows that are called rules, each with its state in the document. -/
theorem map_rule?_classify (nonempty : lines ≠ []) :
    (Verdict.classify player lines).map Verdict.rule? =
      ((ofLines player lines).lines.zip (ofLines player lines).states).map fun (line, state) =>
        (Rule.parse line false).map fun r => (r.render, state.bypass) := by
  obtain ⟨line, rest, rfl⟩ := List.exists_cons_of_ne_nil nonempty
  exact Verdict.map_rule?_classifyAfter player {} (line :: rest)

/-- Where there is no line, there is no rule. -/
theorem parse_line_of_nil (row : Nat) : Rule.parse ((ofLines player []).line row) false = none := by
  cases row <;> rfl

/-- Beyond the last row there is no rule. -/
theorem parse_line_of_size_le {row : Nat} (h : (ofLines player lines).size ≤ row) :
    Rule.parse ((ofLines player lines).line row) false = none := by
  rw [line, List.getD_eq_getElem?_getD, List.getElem?_eq_none h]
  rfl

/-- The inspector calls a row a rule if it is one, with its canonical line and its state. -/
theorem getElem?_classify (row : Nat) (canonical : Text) (off : Bool) :
    (Verdict.classify player lines)[row]? = some (.rule canonical off) ↔
      ∃ r, Rule.parse ((ofLines player lines).line row) false = some r ∧ canonical = r.render ∧
        off = ((ofLines player lines).state row).bypass := by
  have called : (Verdict.classify player lines)[row]? = some (.rule canonical off) ↔
      ((Verdict.classify player lines).map Verdict.rule?)[row]? = some (some (canonical, off)) := by
    simp only [List.getElem?_map, Option.map_eq_some_iff, Verdict.rule?_eq_some_iff,
      exists_eq_right]
  rw [called]
  by_cases empty : lines = []
  · subst empty
    rw [parse_line_of_nil]
    exact ⟨nofun, nofun⟩
  · rw [map_rule?_classify player lines empty, List.getElem?_map]
    by_cases inside : row < (ofLines player lines).size
    · rw [getElem?_zip player lines inside]
      simp only [Option.map_some, Option.some.injEq, Option.map_eq_some_iff, Prod.mk.injEq,
        @eq_comm _ canonical, @eq_comm _ off]
    · have beyond := Nat.le_of_not_lt inside
      rw [parse_line_of_size_le player lines beyond, List.getElem?_eq_none]
      · exact ⟨nofun, nofun⟩
      · rw [List.length_zip]
        exact Nat.le_trans (Nat.min_le_left _ _) beyond

/-- There are as many active rules as rows that the inspector calls so. -/
theorem length_rules :
    (RuleSet.ofLines player lines).rules.length =
      (Verdict.classify player lines).countP Verdict.isActiveRule := by
  by_cases empty : lines = []
  · subst empty
    rfl
  · have active : Verdict.isActiveRule =
        (fun called : Option (Text × Bool) => called.any fun (_, off) => !off) ∘
          Verdict.rule? := rfl
    rw [rules_eq_filterMap, List.length_filterMap_eq_countP, active, ← List.countP_map,
      map_rule?_classify player lines empty, List.countP_map]
    refine List.countP_congr fun (line, state) _ => ?_
    dsimp only [Function.comp_apply]
    cases state.bypass <;> cases Rule.parse line false <;> simp

end Document

namespace Report

/-- The counts stand in front of the empty line that ends a report. -/
theorem getLast?_dropLast_lines (colored : Bool) (source : Text) (player : Player)
    (lines : List Text) :
    (Report.lines colored source player lines).dropLast.getLast? =
      some (summary colored player lines) := by
  rw [Report.lines, List.dropLast_append_cons]
  exact List.getLast?_concat

/-- The counts begin with the number of lines and the number of active rules. -/
theorem exists_summary_eq (colored : Bool) (player : Player) (lines : List Text) :
    ∃ rest, summary colored player lines =
      "  Lines: ".toList ++ Style.blue.paint colored (Text.decimal lines.length) ++
        "  │  Active rules: ".toList ++
        Style.green.paint colored
          (Text.decimal (RuleSet.ofLines player lines).rules.length) ++ rest :=
  ⟨_, List.append_assoc _ _ _⟩

end Report

/-- The rule set has the rules of the rows that are not switched off in the document, in order;
the inspector calls exactly the rows with a rule rules, each with the state it has in the
document; and the number of active rules that it reports is the number of rules in the set. -/
theorem readings_agree (player : Player) (lines : List Text) :
    let d := Document.ofLines player lines
    let rules := (RuleSet.ofLines player lines).rules
    rules = (d.lines.zip d.states).filterMap
        (fun (line, state) => if state.bypass then none else Rule.parse line false) ∧
      (∀ row canonical off,
        (Verdict.classify player lines)[row]? = some (.rule canonical off) ↔
          ∃ r, Rule.parse (d.line row) false = some r ∧ canonical = r.render ∧
            off = (d.state row).bypass) ∧
      rules.length = (Verdict.classify player lines).countP Verdict.isActiveRule ∧
      ∀ colored source, ∃ rest,
        (Report.lines colored source player lines).dropLast.getLast? =
          some ("  Lines: ".toList ++ Style.blue.paint colored (Text.decimal lines.length) ++
            "  │  Active rules: ".toList ++
            Style.green.paint colored (Text.decimal rules.length) ++ rest) := by
  refine ⟨Document.rules_eq_filterMap player lines, Document.getElem?_classify player lines,
    Document.length_rules player lines, fun colored source => ?_⟩
  obtain ⟨rest, counts⟩ := Report.exists_summary_eq colored player lines
  exact ⟨rest, (Report.getLast?_dropLast_lines colored source player lines).trans
    (congrArg some counts)⟩

end LootRules
