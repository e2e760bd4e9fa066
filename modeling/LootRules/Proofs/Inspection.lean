import LootRules.Inspector.Request
import LootRules.Proofs.RuleFile
import LootRules.Proofs.TwoPlayers

/-!
# The inspector and the game

The inspector reads a file for the player that the command line describes. A session reads the same
file for the same player, except that it takes from the file whether items have been registered.
The command line has no option for that, so the inspector always reads for a player who has
registered nothing.

Without the header of the block of registered items, that is the same. With it, the two agree on
the rules just if no rule is below a condition that is false for only one of the two players. The
header is itself such a condition.
-/

namespace LootRules

namespace Request

/-- What comes of a result comes of it alone. -/
theorem exists_of_map_eq_ok {ε α β : Type} {f : α → β} {x : Except ε α} {b : β}
    (h : x.map f = .ok b) : ∃ a, x = .ok a ∧ f a = b := by
  cases x with
  | error e => contradiction
  | ok a => exact ⟨a, rfl, Except.ok.inj h⟩

/-- No setting registers items. -/
theorem autoregister_set {s s' : Settings} {setting : Setting} {value : Text}
    (h : s.set setting value = .ok s') : s'.player.autoregister = s.player.autoregister := by
  cases setting with
  | level | gold =>
    obtain ⟨n, -, rfl⟩ := exists_of_map_eq_ok h
    rfl
  | race | profession | realm1 | realm2 | name | expression =>
    obtain rfl := Except.ok.inj h
    rfl

/-- The source is no fact about the player. -/
theorem player_setInput {s s' : Settings} {path : Text} (h : s.setInput path = .ok s') :
    s'.player = s.player := by
  rw [Settings.setInput] at h
  split at h
  · obtain rfl := Except.ok.inj h
    rfl
  · contradiction

/-- No arguments register items. -/
theorem autoregister_readArguments {s settings : Settings} {arguments : List Text}
    (h : readArguments s arguments = .ok (.inspect settings)) :
    settings.player.autoregister = s.player.autoregister := by
  fun_induction readArguments s arguments with
  -- all arguments are read
  | case1 | case5 =>
    cases h
    rfl
  | case6 =>
    obtain ⟨_, set, same⟩ := exists_of_map_eq_ok h
    cases same
    rw [player_setInput set]
  -- an argument is read, and others are left
  | case4 s _ _ on _ ih => exact ih h
  | case7 s _ _ _ ih => exact ih h
  | case8 s _ _ _ _ set ih => rw [ih h, player_setInput set]
  | case12 s _ _ _ _ _ _ set _ ih => rw [ih h, autoregister_set set]
  | case15 s _ _ _ _ _ _ set _ ih => rw [ih h, autoregister_set set]
  -- an argument asks for something else, or is wrong
  | case2 | case3 | case9 | case10 | case11 | case13 | case14 | case16 => cases h

/-- The player of the inspector has registered nothing. -/
theorem autoregister_ofArguments {colored : Bool} {arguments : List Text} {settings : Settings}
    (h : ofArguments colored arguments = .inr settings) : settings.player.autoregister = false := by
  rw [ofArguments] at h
  split at h <;> try contradiction
  next s read =>
  split at h
  · contradiction
  · obtain rfl := Sum.inr.inj h
    exact autoregister_readArguments read

/-- The report on a text that is within the limits. -/
theorem report_of_splitLines {bytes : ByteArray} {text : Text} {lines : List Text}
    (decoded : RuleFile.decode? bytes = some text)
    (accepted : RuleFile.splitLines {} text = .ok lines) (s : Settings) :
    report s (.ok bytes) =
      { out := Text.unlines (Report.lines s.colored s.source.name s.player lines) } := by
  rw [report, RuleFile.load, decoded]
  dsimp only
  rw [accepted]

end Request

/-- A report ends with the counts and an empty line. -/
theorem Report.exists_lines_eq (colored : Bool) (source : Text) (player : Player)
    (lines : List Text) :
    ∃ front, Report.lines colored source player lines =
      front ++ [summary colored player lines, []] :=
  ⟨_, rfl⟩

/-- A line that is no condition leaves the last one in force. -/
theorem endsSwitchedOff_concat {player : Player} {lines : List Text} {line : Text}
    (h : Condition.ofLine? line = none) :
    EndsSwitchedOff player (lines ++ [line]) ↔ EndsSwitchedOff player lines := by
  rw [EndsSwitchedOff, EndsSwitchedOff, List.filterMap_append, List.filterMap_cons_none h,
    List.filterMap_nil, List.append_nil]

/-- A rule is no condition. -/
theorem Condition.ofLine?_eq_none_of_parse {line : Text} {r : Rule}
    (h : Rule.parse line false = some r) : ofLine? line = none := by
  rw [Option.eq_none_iff_forall_ne_some]
  intro condition holds
  rw [Rule.parse_condition holds] at h
  contradiction

/-- The inspector calls a line a rule if it is one, and calls it switched off if the last condition
above is false. -/
theorem Verdict.getElem?_classify_iff (player : Player) (lines : List Text) (row : Nat)
    (canonical : Text) (off : Bool) :
    (classify player lines)[row]? = some (.rule canonical off) ↔
      ∃ line r, lines[row]? = some line ∧ Rule.parse line false = some r ∧ canonical = r.render ∧
        (off = true ↔ EndsSwitchedOff player (lines.take row)) := by
  rw [Document.getElem?_classify, Document.line_ofLines, List.getD_eq_getElem?_getD]
  cases there : lines[row]? with
  | none =>
    refine iff_of_false (fun ⟨_, read, _⟩ => ?_) fun ⟨_, _, there, _⟩ => by contradiction
    rw [Option.getD_none, (silent (.inl rfl)).2] at read
    contradiction
  | some line =>
    obtain ⟨inside, -⟩ := List.getElem?_eq_some_iff.mp there
    rw [Option.getD_some, Document.state_ofLines_eq_after player inside, List.take_add_one, there]
    simp only [Option.some.injEq, exists_and_left, exists_eq_left']
    refine exists_congr fun r => and_congr_right fun read => and_congr_right fun _ => ?_
    rw [Bool.eq_iff_iff, bypass_after_iff, Option.toList_some,
      endsSwitchedOff_concat (Condition.ofLine?_eq_none_of_parse read)]

namespace Session

/-- A session passes over a row if it takes no rule from there. -/
def PassesOver (s : Session) (lines : List Text) (row : Nat) : Prop :=
  (RuleSet.ofLines s.player (lines.take (row + 1))).rules =
    (RuleSet.ofLines s.player (lines.take row)).rules

/-- A session passes over a rule if the last condition above is false. -/
theorem passesOver_iff (s : Session) {lines : List Text} {row : Nat} {line : Text} {r : Rule}
    (there : lines[row]? = some line) (read : Rule.parse line false = some r) :
    s.PassesOver lines row ↔ EndsSwitchedOff s.player (lines.take row) := by
  rw [PassesOver, List.take_add_one, there, Option.toList_some, RuleSet.rules_ofLines_concat, read,
    List.append_right_eq_self]
  split <;> simp [*]

/-- A player who has registered nothing before plays by the lines of the text. -/
theorem player_start {player : Player} (h : player.autoregister = false) (text : Text) :
    (start text player).player = player.atOpening (Text.lines text) := by
  rw [start, Player.atOpening, h, Bool.false_or]

end Session

/-- What the inspector says of the rules among lines is what a session makes of them: it has as many
rules, and it passes over those that are called switched off. -/
structure InspectionAgrees (player : Player) (s : Session) (lines : List Text) : Prop where
  length : (RuleSet.ofLines player lines).rules.length = s.rules.rules.length
  off_iff : ∀ row canonical off,
    (Verdict.classify player lines)[row]? = some (.rule canonical off) →
      (off = true ↔ s.PassesOver lines row)

/-- The inspector agrees with a session if above every rule the last condition is false for both or
for neither of their players. -/
theorem inspectionAgrees_iff {player : Player} {s : Session} {lines : List Text}
    (rules : s.rules = RuleSet.ofLines s.player lines) :
    InspectionAgrees player s lines ↔
      ∀ row line, lines[row]? = some line → (Rule.parse line false).isSome →
        (EndsSwitchedOff player (lines.take row) ↔ EndsSwitchedOff s.player (lines.take row)) := by
  constructor
  · intro agrees row line there rule
    obtain ⟨r, read⟩ := Option.isSome_iff_exists.mp rule
    have called : (Verdict.classify player lines)[row]? =
        some (.rule r.render (decide (EndsSwitchedOff player (lines.take row)))) :=
      (Verdict.getElem?_classify_iff ..).mpr ⟨line, r, there, read, rfl, decide_eq_true_iff⟩
    rw [← s.passesOver_iff there read, ← agrees.off_iff _ _ _ called, decide_eq_true_iff]
  · intro alike
    refine ⟨by rw [rules, RuleSet.ofLines_eq_ofLines alike], fun row canonical off called => ?_⟩
    obtain ⟨line, r, there, read, -, off_iff⟩ := (Verdict.getElem?_classify_iff ..).mp called
    rw [off_iff, s.passesOver_iff there read, alike row line there (read ▸ rfl)]

/-- On a text within the limits, the inspector reports for a player of the command line how many
rules are active, and agrees with a session of this player just if the text has no header of the
block of registered items, or has no rule below a condition that is false only for one who has
registered items, or only for one who has not. -/
theorem inspection_agrees_iff {colored : Bool} {arguments : List Text} {settings : Settings}
    (asked : Request.ofArguments colored arguments = .inr settings) {bytes : ByteArray}
    {text : Text} (decoded : RuleFile.decode? bytes = some text) {lines : List Text}
    (accepted : RuleFile.splitLines {} text = .ok lines) :
    let player := settings.player
    let active := (RuleSet.ofLines player lines).rules.length
    (∃ front rest, Request.report settings (.ok bytes) =
      { out := Text.unlines (front ++ ["  Lines: ".toList ++
          Style.blue.paint settings.colored (Text.decimal lines.length) ++
          "  │  Active rules: ".toList ++
          Style.green.paint settings.colored (Text.decimal active) ++ rest, []]) }) ∧
    (InspectionAgrees player (Session.start text player) lines ↔
      (registerHeader ∈ lines →
        ∀ row line, lines[row]? = some line → (Rule.parse line false).isSome →
          (EndsSwitchedOff player (lines.take row) ↔
            EndsSwitchedOff player.registered (lines.take row)))) := by
  intro player active
  have unregistered : player.autoregister = false := Request.autoregister_ofArguments asked
  obtain ⟨rfl, -⟩ := RuleFile.splitLines_eq_ok_iff.mp accepted
  constructor
  · obtain ⟨rest, counts⟩ := Report.exists_summary_eq settings.colored player (Text.lines text)
    obtain ⟨front, report⟩ :=
      Report.exists_lines_eq settings.colored settings.source.name player (Text.lines text)
    refine ⟨front, rest, ?_⟩
    rw [Request.report_of_splitLines decoded accepted, report, counts]
  · rw [inspectionAgrees_iff rfl, Session.player_start unregistered]
    by_cases header : registerHeader ∈ Text.lines text
    · rw [Player.atOpening_of_mem header, forall_prop_of_true header]
    · rw [Player.atOpening_of_not_mem header]
      exact iff_of_true (fun _ _ _ _ => Iff.rfl) fun mem => absurd mem header

/-- Lines with the header of the block, and a rule below it that is for mages only. -/
def registeredMage : List Text :=
  ["?:$AUTOREGISTER".toList, "?:[EQU $CLASS Mage]".toList, "!rings".toList]

/-- For a mage, the inspector agrees with a session on a rule for mages, though the header of the
block is above. -/
theorem inspection_agrees_iff_registeredMage :
    let settings : Settings := { player.profession := "Mage" }
    let text := Text.unlines registeredMage
    Request.ofArguments false ["--class".toList, "Mage".toList] = .inr settings ∧
      RuleFile.decode? (RuleFile.encode registeredMage) = some text ∧
      RuleFile.splitLines {} text = .ok registeredMage ∧
      registerHeader ∈ registeredMage ∧
      InspectionAgrees settings.player (Session.start text settings.player) registeredMage := by
  intro settings text
  have asked : Request.ofArguments false ["--class".toList, "Mage".toList] = .inr settings := by
    decide +kernel
  have decoded := RuleFile.decode?_encode registeredMage
  have accepted : RuleFile.splitLines {} text = .ok registeredMage :=
    RuleFile.splitLines_eq_ok_iff.mpr (by decide +kernel)
  have agrees := (inspection_agrees_iff asked decoded accepted).2
  refine ⟨asked, decoded, accepted, by decide +kernel,
    agrees.mpr fun _ row line there rule => ?_⟩
  have conditions : (Rule.parse "?:$AUTOREGISTER".toList false).isSome = false ∧
      (Rule.parse "?:[EQU $CLASS Mage]".toList false).isSome = false := by decide +kernel
  match row with
  | 0 =>
    obtain rfl := Option.some.inj there
    rw [conditions.1] at rule
    contradiction
  | 1 =>
    obtain rfl := Option.some.inj there
    rw [conditions.2] at rule
    contradiction
  | 2 => decide +kernel
  | row + 3 => contradiction

/-- A rule below the header is reported as switched off, and no rule as active, but a session has
the rule. -/
theorem inspection_registeredRings_ne :
    let lines := ["?:$AUTOREGISTER".toList, "!rings".toList]
    let s := Session.start (Text.unlines lines) {}
    Request.ofArguments false [] = .inr {} ∧
      RuleFile.splitLines {} (Text.unlines lines) = .ok lines ∧
      (Verdict.classify {} lines)[1]? = some (.rule "!rings".toList true) ∧
      (RuleSet.ofLines {} lines).rules.length = 0 ∧ s.rules.rules.length = 1 ∧
      ¬ s.PassesOver lines 1 := by
  intro lines s
  have counts : (RuleSet.ofLines s.player (lines.take 1)).rules.length = 0 ∧
      (RuleSet.ofLines s.player (lines.take 2)).rules.length = 1 := by decide +kernel
  refine ⟨by decide +kernel, RuleFile.splitLines_eq_ok_iff.mpr (by decide +kernel),
    by decide +kernel, by decide +kernel, by decide +kernel, fun same => ?_⟩
  have one := congrArg List.length same
  rw [counts.1, counts.2] at one
  contradiction

end LootRules
