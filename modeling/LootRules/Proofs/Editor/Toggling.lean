import LootRules.Proofs.Editor.Refusal
import LootRules.Proofs.Editor.Typing
import LootRules.Proofs.Rule.RoundTrip

/-!
# Toggling the action of a rule

A part of the action is toggled by reading the cursor's line, changing the action of its rule,
and writing the rule in its canonical form. What the line says besides goes through the reader
and the writer and comes out the same, unless an ordinal and the name behind it merge into the
keyword of a realm, which a name that does not begin with `realm's` never does. The new line can
be longer or shorter, for its marks and because the canonical form orders the words, and the
cursor is carried along with its end.
-/

namespace LootRules

namespace Action

/-- The map switch alone, without a policy. -/
def mapSwitch : Action := { pickup := false }

/-- The map switch is turned over. -/
theorem toggle?_mapSwitch (a : Action) :
    a.toggle? mapSwitch = some { a with display := !a.display } := rfl

/-- A policy takes the place of another, and picking up takes its own. -/
theorem toggle?_single (a : Action) (p : Policy) :
    a.toggle? (single false p) =
      some (a.withPolicy (if a.policy? = some p then .pickup else p)) := by
  cases p <;> rfl

/-- Anything else is no part of an action. -/
theorem toggle?_eq_none (a : Action) {mask : Action} (switch : mask ≠ mapSwitch)
    (policy : ∀ p, mask ≠ single false p) : a.toggle? mask = none := by
  unfold toggle?
  split
  · next display bare =>
    refine absurd ?_ switch
    obtain ⟨pickup, destroy, leave, query, shown⟩ := mask
    simp_all [policies, mapSwitch]
  · next p display one =>
    have only : mask.policy? = some p := by rw [policy?, one]
    have made := policy?_eq_some_iff.mp only
    rw [display] at made
    exact absurd made (policy p)
  · rfl

/-- Toggling keeps a single policy. -/
theorem policy?_of_toggle? {a mask b : Action} (h : ∃ p, a.policy? = some p)
    (toggled : a.toggle? mask = some b) : ∃ p, b.policy? = some p := by
  unfold toggle? at toggled
  split at toggled
  · rw [← Option.some.inj toggled]
    exact h
  · rw [← Option.some.inj toggled]
    exact ⟨_, policy?_withPolicy a _⟩
  · contradiction

end Action

/-- A rule that has a line has one with any other policy too. -/
theorem Rule.Writable.with_action {r : Rule} (h : r.Writable) {action : Action}
    (policy : ∃ p, action.policy? = some p) : { r with action }.Writable :=
  { h with policy }

namespace Editor

/-- What toggling a part of the action makes of an editor: another line stands in the cursor's row,
and the cursor is as far from its end as it was from the end of the old line, if the new one is
long enough. -/
structure Relined (e e' : Editor) : Prop where
  row : e'.row = e.row
  lines : e'.lines = e.lines.set e.row e'.line
  cursor : e'.cursor.2 = e'.width - (e.width - e.cursor.2)

/-- An action that is toggled is written into the line. -/
theorem relined_toggleAction {e : Editor} (h : e.WellFormed) {r : Rule}
    (read : Rule.parse e.line false = some r) {mask action : Action}
    (toggled : r.action.toggle? mask = some action) :
    Relined e (e.apply (.toggleAction mask)).1 ∧
      (e.apply (.toggleAction mask)).1.line = { r with action }.render := by
  let line := { r with action }.render
  let before : Editor := { e with col := e.cursor.2, killing := false }
  let after := { before with col := e.cursor.2 + Text.columns line - e.width }.edit
    (e.lines.set e.row line) (.line e.row)
  have prepared : e.prepare (.toggleAction mask) = before := by
    rw [prepare_eq]
    rfl
  have done : before.run (.toggleAction mask) = after := by
    have read' : Rule.parse before.line false = some r := read
    rw [run, toggleAction, read']
    simp only [toggled]
    rfl
  have written : e.lines.set e.row line ≠ [] := by
    refine List.ne_nil_of_length_pos ?_
    rw [List.length_set]
    exact Nat.zero_lt_of_lt h.row_lt
  obtain ⟨row, col, lines⟩ := text_apply (prepared ▸ done)
  generalize (e.apply (.toggleAction mask)).1 = e' at row col lines ⊢
  have set : e'.lines = e.lines.set e.row line := lines.trans (lines_ofLines written)
  have line' : e'.line = line := line_eq_of_lines h.row_lt row set
  have width : e'.width = Text.columns line := congrArg Text.columns line'
  have shift : after.col = e.cursor.2 + Text.columns line - e.width := rfl
  have inside : e.cursor.2 ≤ e.width := Nat.min_le_right _ _
  refine ⟨⟨row, line' ▸ set, ?_⟩, line'⟩
  change min e'.col e'.width = _
  omega

/-- A mask that is no part of an action changes nothing, but that the cursor comes back into its
line and a run of kills ends, as before every command. -/
theorem apply_toggleAction_of_none {e : Editor} (visible : e.Visible) {r : Rule}
    (read : Rule.parse e.line false = some r) {mask : Action}
    (noPart : r.action.toggle? mask = none) :
    (e.apply (.toggleAction mask)).1 = { e with col := e.cursor.2, killing := false } := by
  let before : Editor := { e with col := e.cursor.2, killing := false }
  have prepared : e.prepare (.toggleAction mask) = before := by
    rw [prepare_eq]
    rfl
  have idle : (e.prepare (.toggleAction mask)).run (.toggleAction mask) = before := by
    have read' : Rule.parse before.line false = some r := read
    rw [prepared, run, toggleAction, read']
    simp only [noPart]
  exact apply_eq_run visible idle rfl (congrArg col prepared).symm rfl rfl

/-- Nothing is moved by what comes before a command. -/
theorem relined_of_eq {e e' : Editor} (h : e.WellFormed)
    (same : e' = { e with col := e.cursor.2, killing := false }) : Relined e e' := by
  subst same
  have inside : e.cursor.2 ≤ e.width := Nat.min_le_right _ _
  refine ⟨rfl, ?_, ?_⟩
  · exact (Text.eq_take_append_drop h.row_lt).trans (set_eq h.row_lt e.line).symm
  · change min e.cursor.2 e.width = e.width - (e.width - e.cursor.2)
    omega

/-- A part of the action of a rule is toggled by itself: the line is read back with the map switch
turned over, or with the policy, or with picking up if it had the policy before, and any other mask
changes nothing. All else in the rule stays, and so do the other rows, and the cursor keeps its
distance from the end of the line as long as the line has so many columns. -/
theorem toggleAction_read_back {e : Editor} (reached : e.Reachable) {r : Rule}
    (read : Rule.parse e.line false = some r) (name : ¬ Keyword.realmWord <+: r.name)
    (mask : Action) :
    let e' := (e.apply (.toggleAction mask)).1
    let fromEnd := e.width - e.cursor.2
    (mask = Action.mapSwitch →
      Rule.parse e'.line false =
          some { r with action := { r.action with display := !r.action.display } } ∧
        Rule.parse (e'.apply (.toggleAction mask)).1.line false = some r) ∧
    (∀ p, mask = Action.single false p →
      Rule.parse e'.line false =
        some { r with
          action := r.action.withPolicy (if r.action.policy? = some p then .pickup else p) }) ∧
    (mask ≠ Action.mapSwitch → (∀ p, mask ≠ Action.single false p) →
      e' = { e with col := e.cursor.2, killing := false }) ∧
    e'.row = e.row ∧ e'.lines = e.lines.set e.row e'.line ∧
    (fromEnd ≤ e'.width → e'.cursor.2 + fromEnd = e'.width) ∧
    (e'.width < fromEnd → e'.cursor.2 = 0) := by
  intro e' fromEnd
  have room := Rule.writable_of_parse read
  have reads {action : Action} (toggled : r.action.toggle? mask = some action) :
      Rule.parse e'.line false = some { r with action } := by
    rw [(relined_toggleAction reached.wellFormed read toggled).2]
    exact Rule.parse_render_of_name
      (room.with_action (Action.policy?_of_toggle? room.policy toggled)) name
  have relined : Relined e e' := by
    cases toggled : r.action.toggle? mask with
    | none =>
      exact relined_of_eq reached.wellFormed
        (apply_toggleAction_of_none reached.visible read toggled)
    | some action => exact (relined_toggleAction reached.wellFormed read toggled).1
  have cursor := relined.cursor
  refine ⟨?_, ?_, ?_, relined.row, relined.lines, ?_, ?_⟩
  · rintro rfl
    have flipped := reads (Action.toggle?_mapSwitch r.action)
    have reached' := (reached.apply (.toggleAction Action.mapSwitch)).wellFormed
    have toggled := Action.toggle?_mapSwitch { r.action with display := !r.action.display }
    have back : { r.action with display := !!r.action.display } = r.action := by
      rw [Bool.not_not]
    refine ⟨flipped, ?_⟩
    rw [(relined_toggleAction reached' flipped toggled).2, back]
    exact Rule.parse_render_of_name room name
  · rintro p rfl
    exact reads (Action.toggle?_single r.action p)
  · intro switch policy
    exact apply_toggleAction_of_none reached.visible read
      (Action.toggle?_eq_none r.action switch policy)
  · intro long
    omega
  · intro short
    omega

/-- A line that is not in canonical form, with the cursor at its end. -/
def unsorted : Editor :=
  (start ["(rare good rings:realm".toList, "amulets".toList] {} {}).applyAll [.move .lineEnd]

/-- The rule of that line. -/
def unsortedRule : Rule where
  action := { display := false }
  flags := .ofList [.rare, .good, .rings]
  name := "realm".toList

/-- Destroying takes the place of picking up, and the cursor stays at the end of the line; turning
the map switch over twice leaves the rule. -/
theorem toggleAction_read_back_unsorted :
    let e := unsorted
    let e' := (e.apply (.toggleAction (.single false .destroy))).1
    let f := (e.apply (.toggleAction .mapSwitch)).1
    e.Reachable ∧ Rule.parse e.line false = some unsortedRule ∧
      ¬ Keyword.realmWord <+: unsortedRule.name ∧
      e'.line = "(!good rare rings:realm".toList ∧ e.cursor = (0, 22) ∧ e'.cursor = (0, 23) ∧
      Rule.parse e'.line false =
        some { unsortedRule with action := unsortedRule.action.withPolicy .destroy } ∧
      f.line = "good rare rings:realm".toList ∧
      Rule.parse (f.apply (.toggleAction .mapSwitch)).1.line false = some unsortedRule := by
  intro e e' f
  have reached : e.Reachable := (Reachable.start _ _ _).apply _
  have read : Rule.parse e.line false = some unsortedRule := by decide +kernel
  have name : ¬ Keyword.realmWord <+: unsortedRule.name := by decide +kernel
  obtain ⟨-, destroyed, -⟩ := toggleAction_read_back reached read name (.single false .destroy)
  obtain ⟨flipped, -⟩ := toggleAction_read_back reached read name .mapSwitch
  exact ⟨reached, read, name, by decide +kernel, by decide +kernel, by decide +kernel,
    destroyed .destroy rfl, by decide +kernel, (flipped rfl).2⟩

end Editor

end LootRules
