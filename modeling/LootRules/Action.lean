/-!
# Actions

An action says what to do with an item. It has four policy switches, one per way of treating
the item, and a switch for showing the item on the map. A sensible action has exactly one
policy switched on; others can be given by hand, and operations leave them alone.
-/

namespace LootRules

/-- The ways of treating an item. -/
inductive Policy where
  | pickup | destroy | leave | query
  deriving DecidableEq, Repr

/-- The policies that are switched on, and whether matches are shown on the map. -/
structure Action where
  pickup : Bool := true
  destroy : Bool := false
  leave : Bool := false
  query : Bool := false
  display : Bool := true
  deriving DecidableEq, Repr, Inhabited

namespace Action

/-- Exactly one policy, with the map switch as given. -/
def single (display : Bool) : Policy → Action
  | .pickup => ⟨true, false, false, false, display⟩
  | .destroy => ⟨false, true, false, false, display⟩
  | .leave => ⟨false, false, true, false, display⟩
  | .query => ⟨false, false, false, true, display⟩

/-- The policies that are switched on. -/
def policies (a : Action) : List Policy :=
  (if a.pickup then [.pickup] else []) ++ (if a.destroy then [.destroy] else []) ++
    (if a.leave then [.leave] else []) ++ (if a.query then [.query] else [])

/-- The policy, when exactly one is switched on. -/
def policy? (a : Action) : Option Policy :=
  match a.policies with
  | [p] => some p
  | _ => none

/-- An action made of one policy has that policy. -/
theorem policy?_single (display : Bool) (p : Policy) : (single display p).policy? = some p := by
  cases p <;> rfl

/-- An action has exactly one policy just when it is made of it. -/
theorem policy?_eq_some_iff {a : Action} {p : Policy} :
    a.policy? = some p ↔ a = single a.display p := by
  constructor
  · obtain ⟨pickup, destroy, leave, query, display⟩ := a
    cases p <;> cases pickup <;> cases destroy <;> cases leave <;> cases query <;>
      simp [policy?, policies, single]
  · intro h
    rw [h, policy?_single]

/-- The action with its policies replaced by one. -/
def withPolicy (a : Action) (p : Policy) : Action := single a.display p

/-- The action with the policy of another. A mask that does not have exactly one policy
changes nothing. -/
def setPolicy (a mask : Action) : Action :=
  match mask.policy? with
  | some p => a.withPolicy p
  | none => a

/-- The action without its map switch. -/
def hidden (a : Action) : Action := { a with display := false }

end Action

end LootRules
