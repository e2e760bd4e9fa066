import LootRules.Proofs.Session.Registering

/-!
# Sessions over time

What happens to a session are items that are to be registered and items that are destroyed. Most of
that leaves no trace in the rules. What does are the items that no rule selects at their time: each
adds its rule at the end, and the line of the rule is handed out for the file. The first of these
lines has the opening of the block of registered items in front, if the file does not have it yet.
-/

namespace LootRules

/-- The lines to be put at the end of the file. -/
def Registration.lines : Registration → List Text
  | .added lines => lines
  | .alreadyDestroyed | .refused => []

namespace Session

/-- What can happen to a session. -/
inductive Event where
  | register (item : Item) (name : Text)
  | recordDestroyed (item : Item)

/-- The session after an event, and the lines to be put at the end of the file. -/
def handle (s : Session) : Event → Session × List Text
  | .register item name => ((s.register item name).1, (s.register item name).2.lines)
  | .recordDestroyed item => (s.recordDestroyed item, [])

/-- The session after some events, one after the other, and all lines to be put at the end of the
file. -/
def handleAll (s : Session) : List Event → Session × List Text
  | [] => (s, [])
  | event :: events =>
    let next := s.handle event
    let last := next.1.handleAll events
    (last.1, next.2 ++ last.2)

/-- The items that some events add to the rules of a session, with their names. -/
def newItems (s : Session) : List Event → List (Item × Text)
  | [] => []
  | .register item name :: events =>
    match s.rules.find? item name with
    | none => (item, name) :: (s.withItem item name).newItems events
    | some _ => s.newItems events
  | .recordDestroyed item :: events => (s.recordDestroyed item).newItems events

/-- The rules of some items under their names. -/
def destroyRules (items : List (Item × Text)) : List Rule :=
  items.map fun (item, name) => destroyRule item name

/-- What is added has been registered. -/
theorem register_mem_of_mem_newItems {s : Session} {events : List Event} {item : Item} {name : Text}
    (h : (item, name) ∈ s.newItems events) : .register item name ∈ events := by
  induction events generalizing s with
  | nil => contradiction
  | cons event events ih =>
    cases event with
    | register other called =>
      rw [newItems] at h
      split at h
      · rcases List.mem_cons.mp h with same | mem
        · rw [Prod.mk.injEq] at same
          rw [same.1, same.2]
          exact List.mem_cons_self
        · exact List.mem_cons_of_mem _ (ih mem)
      · exact List.mem_cons_of_mem _ (ih h)
    | recordDestroyed other => exact List.mem_cons_of_mem _ (ih h)

/-- A run adds the rules of its new items at the end, and hands out their lines behind the
opening. -/
theorem handleAll_eq (s : Session) (events : List Event) :
    (s.handleAll events).1.rules.rules = s.rules.rules ++ destroyRules (s.newItems events) ∧
      (s.handleAll events).2 =
        (if (s.newItems events).isEmpty then [] else s.opening) ++
          (destroyRules (s.newItems events)).map Rule.render := by
  induction events generalizing s with
  | nil => exact ⟨(List.append_nil _).symm, rfl⟩
  | cons event events ih =>
    cases event with
    | register item name =>
      rw [handleAll, handle, newItems]
      cases found : s.rules.find? item name with
      | some entry =>
        have nothing : Registration.lines (if entry.2.action.destroy then .alreadyDestroyed
            else .refused) = [] := by
          split <;> rfl
        rw [register_of_found found, nothing]
        exact ih s
      | none =>
        -- The block has been opened when the next item comes.
        obtain ⟨rules, lines⟩ := ih (s.withItem item name)
        have opened : (s.withItem item name).opening = [] := rfl
        rw [opened, ite_self] at lines
        rw [register_of_none found]
        refine ⟨rules.trans (List.append_assoc _ _ _), ?_⟩
        dsimp only
        rw [lines, Registration.lines]
        exact List.append_assoc _ _ _
    | recordDestroyed item => exact ih (s.recordDestroyed item)

end Session

end LootRules
