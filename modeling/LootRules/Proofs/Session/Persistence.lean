import LootRules.Proofs.Readings
import LootRules.Proofs.Rule.Unbroken
import LootRules.Proofs.Session.Events

/-!
# Registered items in the file

A session hands out lines to be put at the end of its file. The file is meant to give the rules of
the session when it is read again. A run adds rules at the end and hands out their lines behind
those that open the block of registered items, and each of the lines is read as its rule, if the
texts of the items are such that it is one line and its name pattern ends where it should.

But lines are read under the condition above them, and rules under the facts of their time. If the
block has been opened by the text, the last condition of the text governs the new lines, and that
may be another one than the header. If it has not, then it is now, and conditions that ask for the
block have another value than before. Where neither makes a difference, the rules are the same.
-/

namespace LootRules

/-- The state below some lines. -/
def LineState.after (player : Player) (above : LineState) (lines : List Text) : LineState :=
  lines.foldl (LineState.next player) above

/-- The active rules among lines and more lines: the latter are read in the state below the
former. -/
theorem RuleSet.activeRules_append (player : Player) (above : LineState) (lines more : List Text) :
    activeRules player above.bypass (lines ++ more) =
      activeRules player above.bypass lines ++
        activeRules player (above.after player lines).bypass more := by
  induction lines generalizing above with
  | nil => rfl
  | cons line lines ih =>
    rw [List.cons_append, activeRules_cons, activeRules_cons, List.append_assoc]
    exact congrArg _ (ih (above.next player line))

/-- The last condition among lines is there, and is false. -/
def EndsSwitchedOff (player : Player) (lines : List Text) : Prop :=
  ∃ condition, (lines.filterMap Condition.ofLine?).getLast? = some condition ∧
    player.eval condition = ['0']

/-- Below lines the last condition among them counts. -/
theorem LineState.bypass_after (player : Player) (above : LineState) (lines : List Text) :
    (above.after player lines).bypass =
      (((lines.filterMap Condition.ofLine?).getLast?.map fun condition =>
        Condition.isFalse (player.eval condition)).getD above.bypass) := by
  induction lines generalizing above with
  | nil => rfl
  | cons line lines ih =>
    refine (ih (above.next player line)).trans ?_
    cases holds : Condition.ofLine? line with
    | none => rw [bypass_next_of_none holds, List.filterMap_cons_none holds]
    | some condition =>
      rw [bypass_next_of_condition holds, List.filterMap_cons_some holds, List.getLast?_cons]
      cases (lines.filterMap Condition.ofLine?).getLast? <;> rfl

/-- Below lines the rules are switched off if the last condition is false. -/
theorem bypass_after_iff (player : Player) (lines : List Text) :
    (({} : LineState).after player lines).bypass ↔ EndsSwitchedOff player lines := by
  rw [LineState.bypass_after, EndsSwitchedOff]
  cases (lines.filterMap Condition.ofLine?).getLast? with
  | none => simp
  | some condition => simp [Condition.isFalse_iff]

instance (player : Player) (lines : List Text) : Decidable (EndsSwitchedOff player lines) :=
  decidable_of_iff _ (bypass_after_iff player lines)

/-- A line that is native to rule files holds no condition. -/
theorem Condition.ofLine?_eq_none_of_native {line : Text} (h : isForeign line = false) :
    ofLine? line = none := by
  cases holds : ofLine? line with
  | none => rfl
  | some condition =>
    rw [ofLine?_eq_some_iff.mp holds] at h
    contradiction

/-- The lines of rules that can be read back are read as these rules, unless they are switched
off. -/
theorem RuleSet.activeRules_render (player : Player) (above : LineState) {rules : List Rule}
    (h : ∀ r ∈ rules, r.Writable ∧ ¬ r.MergesIntoRealm) :
    activeRules player above.bypass (rules.map Rule.render) =
      if above.bypass then [] else rules := by
  induction rules generalizing above with
  | nil => exact (ite_self []).symm
  | cons r rules ih =>
    obtain ⟨⟨writable, free⟩, rest⟩ := List.forall_mem_cons.mp h
    have native := Condition.ofLine?_eq_none_of_native r.isForeign_render
    have read : Rule.parse r.render false = some r :=
      (Rule.parse_render writable).trans (congrArg some (Rule.ofBody_body writable free))
    rw [List.map_cons, activeRules_cons]
    dsimp only
    rw [ih _ rest, LineState.bypass_next_of_none native, read]
    cases above.bypass <;> rfl

/-- The block of registered items is opened by two comments and a condition. -/
theorem RuleSet.activeRules_opening (player : Player) (off : Bool) (lines : List Text) :
    activeRules player off (registerWarning ++ [registerHeader] ++ lines) =
      activeRules player (Condition.isFalse (player.eval "$AUTOREGISTER".toList)) lines :=
  rfl

/-- The player once items have been registered. -/
def Player.registered (p : Player) : Player := { p with autoregister := true }

/-- The condition of the block holds once items have been registered. -/
theorem isFalse_eval_registered (player : Player) :
    Condition.isFalse (player.registered.eval "$AUTOREGISTER".toList) = false :=
  rfl

/-- Sets of the same rules in the same order are the same. -/
theorem RuleSet.eq_iff {s t : RuleSet} : s = t ↔ s.rules = t.rules := by
  cases s
  cases t
  exact RuleSet.mk.injEq _ _ ▸ Iff.rfl

namespace Session

/-- The texts of what is registered keep to one line, and what goes into a name pattern is free of
the mark of an inscription. -/
def Event.Plain : Event → Prop
  | .register item name =>
    (name.Unbroken ∧ '#' ∉ name) ∧ (∀ title ∈ item.ego, Text.Unbroken title ∧ '#' ∉ title) ∧
      ∀ text ∈ item.inscription, Text.Unbroken text
  | .recordDestroyed _ => True

/-- The rule of a plain item has one line, which is read as that rule. -/
theorem destroyRule_of_plain {item : Item} {name : Text} (h : (Event.register item name).Plain) :
    let r := destroyRule item name
    (r.Writable ∧ ¬ r.MergesIntoRealm) ∧ r.render.Unbroken := by
  obtain ⟨⟨unbroken, mark⟩, title, inscription⟩ := h
  have kept {s : Text} (absent : '#' ∉ s) : '#' ∉ Text.lower s := fun mem =>
    (Text.mem_or_lowered_of_mem_lower mem).elim absent (by decide)
  have pattern : '#' ∉ item.rulePattern name := by
    rw [Item.rulePattern]
    split
    · cases ego : item.ego with
      | none => decide
      | some text => exact kept (title text ego).2
    · split
      · exact List.not_mem_nil
      · rw [List.mem_cons, not_or]
        exact ⟨by decide, kept mark⟩
  dsimp only
  rw [destroyRule_eq]
  refine ⟨⟨Rule.writable_ofItem item ⟨.destroy, rfl⟩ pattern,
    Rule.not_mergesIntoRealm_ofItem _ _ _⟩,
    Rule.unbroken_render (Rule.unbroken_ofItem unbroken (fun text ego => (title text ego).1)
      inscription _)⟩

/-- Whether items have been registered is read off the lines of the text. -/
theorem start_eq (text : Text) (player : Player) :
    start text player =
      let player := { player with autoregister := decide (registerHeader ∈ Text.lines text) }
      { player, rules := RuleSet.ofText player text } := by
  have header : (Text.lines text).any (· = registerHeader) =
      decide (registerHeader ∈ Text.lines text) := by
    rw [Bool.eq_iff_iff, List.any_eq_true, decide_eq_true_iff]
    simp
  rw [start, header]

/-- With the header, a text is read for a player who has registered items. -/
theorem rules_start_of_header {text : Text} (h : registerHeader ∈ Text.lines text)
    (player : Player) :
    (start text player).rules.rules =
      RuleSet.activeRules player.registered false (Text.lines text) := by
  rw [start_eq]
  simp only [h, decide_true]
  rfl

/-- The lines that a session hands out for new items, the first ones it has. -/
def linesFor (s : Session) (items : List (Item × Text)) : List Text :=
  s.opening ++ (destroyRules items).map Rule.render

/-- The lines for plain items are unbroken. -/
theorem unbroken_linesFor {s : Session} {items : List (Item × Text)}
    (plain : ∀ p ∈ items, (Event.register p.1 p.2).Plain) :
    ∀ l ∈ s.linesFor items, Text.Unbroken l := by
  intro l hl
  rcases List.mem_append.mp hl with opening | line
  · have closed : ∀ l ∈ registerWarning ++ [registerHeader], Text.Unbroken l := by
      decide +kernel
    rw [Session.opening] at opening
    split at opening
    · exact absurd opening List.not_mem_nil
    · exact closed l opening
  · simp only [destroyRules, List.map_map, List.mem_map, Function.comp_apply] at line
    obtain ⟨p, hp, rfl⟩ := line
    exact (destroyRule_of_plain (plain p hp)).2

/-- The rules of a text with the lines for new items behind it. -/
theorem rules_start_append {text : Text} (ended : text.Ended) (player : Player)
    {items : List (Item × Text)} (plain : ∀ p ∈ items, (Event.register p.1 p.2).Plain) :
    (start (text ++ Text.unlines ((start text player).linesFor items)) player).rules.rules =
      (RuleSet.ofText player.registered text).rules ++
        if registerHeader ∈ Text.lines text ∧ EndsSwitchedOff player.registered (Text.lines text)
        then [] else destroyRules items := by
  have lines := Text.lines_append_unlines ended
    (unbroken_linesFor (s := start text player) plain)
  have readable : ∀ r ∈ destroyRules items, r.Writable ∧ ¬ r.MergesIntoRealm := by
    intro r hr
    obtain ⟨p, hp, rfl⟩ := List.mem_map.mp hr
    exact (destroyRule_of_plain (plain p hp)).1
  have opening : (start text player).opening =
      if registerHeader ∈ Text.lines text then [] else registerWarning ++ [registerHeader] := by
    rw [Session.opening, start_eq]
    simp only [decide_eq_true_iff]
  have off := bypass_after_iff player.registered (Text.lines text)
  rw [rules_start_of_header, lines]
  · change RuleSet.activeRules player.registered ({} : LineState).bypass _ = _
    rw [RuleSet.activeRules_append]
    refine congrArg _ ?_
    rw [linesFor, opening]
    by_cases header : registerHeader ∈ Text.lines text
    · rw [if_pos header, List.nil_append, RuleSet.activeRules_render _ _ readable]
      simp only [header, true_and, off]
    · rw [if_neg header, if_neg fun both => header both.1, RuleSet.activeRules_opening,
        isFalse_eval_registered]
      exact RuleSet.activeRules_render player.registered {} readable
  · rw [lines, linesFor, opening, List.mem_append]
    by_cases header : registerHeader ∈ Text.lines text
    · exact .inl header
    · rw [if_neg header]
      exact .inr (by simp)

/-- Putting the lines of a run at the end of the file and reading the file again gives the rules
that the session has, just if there are no such lines, or if, for a player who has registered items,
the text has the rules that it had at first, and the block of registered items, if the text has it,
is not switched off by the last condition. -/
theorem rules_start_of_saved_iff {text : Text} (ended : text.Ended) (player : Player)
    {events : List Event} (plain : ∀ event ∈ events, event.Plain) :
    let s := start text player
    let run := s.handleAll events
    (start (text ++ Text.unlines run.2) player).rules = run.1.rules ↔
      run.2 = [] ∨
        RuleSet.ofText player.registered text = s.rules ∧
          (registerHeader ∈ Text.lines text →
            ¬ EndsSwitchedOff player.registered (Text.lines text)) := by
  intro s run
  obtain ⟨rules, lines⟩ := handleAll_eq s events
  by_cases nothing : s.newItems events = []
  · rw [nothing] at rules lines
    have empty : run.2 = [] := lines
    refine iff_of_true ?_ (.inl empty)
    rw [empty, Text.unlines, List.append_nil, RuleSet.eq_iff]
    exact (rules.trans (List.append_nil _)).symm
  · have items : ∀ p ∈ s.newItems events, (Event.register p.1 p.2).Plain := fun p hp =>
      plain _ (register_mem_of_mem_newItems hp)
    have new : destroyRules (s.newItems events) ≠ [] := fun empty =>
      nothing (List.map_eq_nil_iff.mp empty)
    have written : run.2 = s.linesFor (s.newItems events) := by
      rw [linesFor, lines, if_neg (fun empty => nothing (List.isEmpty_iff.mp empty))]
    have wrote : run.2 ≠ [] := by
      rw [written, linesFor]
      exact List.append_ne_nil_of_right_ne_nil _ fun empty => new (List.map_eq_nil_iff.mp empty)
    rw [RuleSet.eq_iff, RuleSet.eq_iff, written, rules_start_append ended player items, rules,
      ← written, or_iff_right wrote]
    by_cases off : registerHeader ∈ Text.lines text ∧
        EndsSwitchedOff player.registered (Text.lines text)
    · rw [if_pos off, List.append_nil]
      refine iff_of_false (fun same => ?_) fun both => both.2 off.1 off.2
      have before : s.rules.rules = (RuleSet.ofText player.registered text).rules :=
        rules_start_of_header off.1 player
      rw [before] at same
      exact new (List.self_eq_append_right.mp same)
    · rw [if_neg off, List.append_cancel_right_eq]
      exact (and_iff_left (not_and.mp off)).symm

/-- Without title and inscription, only the name has to be plain. -/
theorem Event.plain_register {item : Item} {name : Text} (plain : name.Unbroken ∧ '#' ∉ name)
    (ego : item.ego = none) (inscription : item.inscription = none) :
    (Event.register item name).Plain := by
  refine ⟨plain, ?_, ?_⟩
  · rw [ego]
    exact nofun
  · rw [inscription]
    exact nofun

/-- Oil. -/
def oil : Item where
  name := "Flask of Oil"
  kind := .flask

/-- The oil is registered, and once it has been destroyed a potion is. -/
def disposals : List Event :=
  [.register oil oil.name, .recordDestroyed oil,
    .register { name := "Potion of Salt Water", kind := .potion } "Potion of Salt Water".toList]

/-- Behind a text with a rule for rings, the lines for oil and a potion are read as their rules. -/
theorem rules_start_of_saved_disposals :
    let text : Text := "~rings\n".toList
    let run := (start text {}).handleAll disposals
    text.Ended ∧ (∀ event ∈ disposals, event.Plain) ∧
      run.2 = registerWarning ++
        [registerHeader, "(!^flask of oil".toList, "(!^potion of salt water".toList] ∧
      (start (text ++ Text.unlines run.2) {}).rules = run.1.rules := by
  intro text run
  have ended : text.Ended := fun c last => (Option.some.inj last).symm
  have plain : ∀ event ∈ disposals, event.Plain := by
    intro event mem
    simp only [disposals, List.mem_cons, List.not_mem_nil, or_false] at mem
    rcases mem with rfl | rfl | rfl
    · exact Event.plain_register (by decide) rfl rfl
    · trivial
    · exact Event.plain_register (by decide) rfl rfl
  have lines : run.2 = registerWarning ++
      [registerHeader, "(!^flask of oil".toList, "(!^potion of salt water".toList] := by
    decide +kernel
  refine ⟨ended, plain, lines, (rules_start_of_saved_iff ended {} plain).mpr (.inr ⟨?_, ?_⟩)⟩
  · decide +kernel
  · exact fun header => absurd header (by decide)

/-- With the block of registered items switched off at the end of the text, the line for oil is
not read as a rule. -/
theorem rules_start_of_saved_oil_ne :
    let text : Text := "?:$AUTOREGISTER\n?:0\n".toList
    let run := (start text {}).handleAll [.register oil oil.name]
    text.Ended ∧ (Event.register oil oil.name).Plain ∧ run.2 = ["(!^flask of oil".toList] ∧
      run.1.rules.rules = [destroyRule oil oil.name] ∧
      (start (text ++ Text.unlines run.2) {}).rules.rules = [] := by
  intro text run
  have ended : text.Ended := fun c last => (Option.some.inj last).symm
  exact ⟨ended, Event.plain_register (by decide) rfl rfl, by decide +kernel⟩

end Session

end LootRules
