import LootRules.Proofs.Editor.Saving
import LootRules.Proofs.TwoPlayers

/-!
# Opening the edited lines anew

The states of lines follow the text through every command, but the player for whom they are worked
out stays the one of the opening. Whether items have been registered is read off the lines then,
and not again. So when the header of the block of registered items comes or goes, the states stay
behind those of an editor opened over the present lines.

Where the header has come, its own line tells the two apart. Where it has gone, they differ only by
other conditions on registered items.
-/

namespace LootRules.Editor

/-- No event changes the player. -/
theorem Reachable.player_handleAll {e : Editor} (reached : Reachable e) (events : List Event) :
    (e.handleAll events).player = e.player := by
  induction events generalizing e with
  | nil => rfl
  | cons event events ih => exact (ih (reached.handle event)).trans (reached.fixed_handle event).1

/-- The player of an editor is the one of its opening. -/
theorem document_handleAll (lines : List Text) (player : Player) (limits : Limits)
    (events : List Event) :
    let e := (start lines player limits).handleAll events
    e.lines ≠ [] ∧ e.document = Document.ofLines (player.atOpening lines) e.lines := by
  intro e
  have opened := Reachable.start lines player limits
  have reached : Reachable e := opened.handleAll events
  have same : e.player = player.atOpening lines := opened.player_handleAll events
  exact ⟨reached.ready.lines_ne_nil, same ▸ reached.document_eq⟩

/-- Whether a line is a condition, and whether it is in the block of registered items, does not
depend on the player. -/
theorem state_ofLines_eq (p q : Player) (lines : List Text) (row : Nat) :
    ((Document.ofLines p lines).state row).expression =
        ((Document.ofLines q lines).state row).expression ∧
      ((Document.ofLines p lines).state row).autoregister =
        ((Document.ofLines q lines).state row).autoregister := by
  have size : (Document.ofLines p lines).size = (Document.ofLines q lines).size := by
    rw [Document.size_ofLines, Document.size_ofLines]
  by_cases inside : row < (Document.ofLines p lines).size
  · have inside' := size ▸ inside
    constructor
    · rw [Bool.eq_iff_iff, Document.expression_state_ofLines inside,
        Document.expression_state_ofLines inside', Document.line_ofLines, Document.line_ofLines]
    · rw [Bool.eq_iff_iff, Document.autoregister_state_ofLines inside,
        Document.autoregister_state_ofLines inside']
      simp only [Document.line_ofLines]
  · have beyond : ∀ player, (Document.ofLines player lines).state row = {} := fun player => by
      rw [Document.state, List.getD_eq_getElem?_getD, List.getElem?_eq_none, Option.getD_none]
      rw [Document.ofLines_states_length]
      exact Nat.le_of_not_lt inside
    rw [beyond p, beyond q]
    exact ⟨rfl, rfl⟩

/-- The header of the block tells a player who has registered items from one who has not. -/
theorem not_switchAlike_of_mem {p : Player} {lines : List Text} (h : p.autoregister = false)
    (header : registerHeader ∈ lines) : ¬ SwitchAlike p p.registered lines := by
  intro alike
  have false' := (alike "$AUTOREGISTER".toList header).mp (p.eval_header_of_not h)
  rw [← Condition.isFalse_iff, isFalse_eval_registered] at false'
  contradiction

/-- For the states to be those of a fresh opening, the header of the block has to be there as it
was at the first one, or to have gone without leaving behind a condition that depends on it. For a
player who has registered items before, they always are. Whether a line is a condition, and whether
it is in the block, is up to date in any case. -/
theorem states_eq_start_iff (lines : List Text) (player : Player) (limits : Limits)
    (events : List Event) :
    let e := (start lines player limits).handleAll events
    let fresh := start e.lines player limits
    (∀ row, (e.document.state row).expression = (fresh.document.state row).expression ∧
      (e.document.state row).autoregister = (fresh.document.state row).autoregister) ∧
    (e.document.states = fresh.document.states ↔
      player.autoregister ∨ (registerHeader ∈ lines ↔ registerHeader ∈ e.lines) ∨
        registerHeader ∈ lines ∧ SwitchAlike player.registered player e.lines) := by
  intro e fresh
  obtain ⟨nonempty, document⟩ : e.lines ≠ [] ∧ e.document = _ :=
    document_handleAll lines player limits events
  have opened : fresh.document = Document.ofLines (player.atOpening e.lines) e.lines := rfl
  refine ⟨fun row => ?_, ?_⟩
  · rw [opened, document]
    exact state_ofLines_eq _ _ e.lines row
  rw [opened, document, Document.states_ofLines_eq_iff nonempty]
  cases before : player.autoregister with
  | true =>
    rw [Player.atOpening_eq_self before, Player.atOpening_eq_self before]
    exact iff_of_true (.refl _ _) (.inl rfl)
  | false =>
    by_cases first : registerHeader ∈ lines <;> by_cases now : registerHeader ∈ e.lines
    · rw [Player.atOpening_of_mem first, Player.atOpening_of_mem now]
      exact iff_of_true (.refl _ _) (.inr (.inl (iff_of_true first now)))
    · rw [Player.atOpening_of_mem first, Player.atOpening_of_not_mem now]
      simp [first, now]
    · rw [Player.atOpening_of_not_mem first, Player.atOpening_of_mem now]
      simp [first, now, not_switchAlike_of_mem before now]
    · rw [Player.atOpening_of_not_mem first, Player.atOpening_of_not_mem now]
      exact iff_of_true (.refl _ _) (.inr (.inl (iff_of_false first now)))

/-- When the comment sign is taken from the header of the block, the rule below is switched off, but
not in an editor opened over the same lines. -/
theorem states_uncommentedHeader_ne :
    let e := (start ["#?:$AUTOREGISTER".toList, "rings".toList] {} {}).handleAll
      [.command .deleteChar]
    (e.document.state 1).bypass = true ∧
      ((start e.lines {} {}).document.state 1).bypass = false := by
  intro e
  have lines : e.lines = ["?:$AUTOREGISTER".toList, "rings".toList] := by decide +kernel
  refine ⟨by decide +kernel, ?_⟩
  rw [lines]
  decide +kernel

end LootRules.Editor
