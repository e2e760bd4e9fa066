import LootRules.Proofs.Editor.Commands
import LootRules.Proofs.Readings

/-!
# What a search finds

A search goes past every row that is not hit or is switched off, and only keeps in mind the first
hit among these. So it ends at the first hit that is switched on, or else at the first hit of all.

The rules that are active are those of the rows in the same order. So the rule that decides about an
item is that of the row at which a search for the item ends, and its position among the rules is the
number of active rules above that row.
-/

namespace LootRules

section Lists

variable {α β : Type _} {f : α → Option β} {p : β → Bool} {l : List α} {b : β} {k : Nat}

/-- What is in a list has a number there. -/
theorem exists_mem_zipIdx {values : List β} (h : b ∈ values) : ∃ i, (b, i) ∈ values.zipIdx := by
  obtain ⟨i, inside, rfl⟩ := List.mem_iff_getElem.mp h
  exact ⟨i, List.mk_mem_zipIdx_iff_getElem?.mpr (List.getElem?_eq_getElem inside)⟩

/-- The first fitting value made from a list comes from an element above which no value fits, and
its position is the number of values made from the elements above. -/
theorem exists_of_find?_filterMap
    (h : (l.filterMap f).zipIdx.find? (fun x => p x.1) = some (b, k)) :
    ∃ above a below, l = above ++ a :: below ∧ f a = some b ∧ p b = true ∧
      (∀ x ∈ above, ∀ y, f x = some y → p y = false) ∧ (above.filterMap f).length = k := by
  obtain ⟨fits, before, after, split, others⟩ := List.find?_eq_some_iff_append.mp h
  obtain ⟨_, _, whole, rfl, here⟩ := List.zipIdx_eq_append_iff.mp split
  obtain ⟨_, _, rfl, same, -⟩ := List.zipIdx_eq_cons_iff.mp here.symm
  obtain ⟨rfl, rfl⟩ := Prod.mk.inj same
  obtain ⟨first, rest, rfl, rfl, made⟩ := List.filterMap_eq_append_iff.mp whole
  obtain ⟨silent, a, below, rfl, nothing, value, -⟩ := List.filterMap_eq_cons_iff.mp made
  have values : (first ++ silent).filterMap f = first.filterMap f := by
    rw [List.filterMap_append, List.filterMap_eq_nil_iff.mpr nothing, List.append_nil]
  refine ⟨first ++ silent, a, below, (List.append_assoc _ _ _).symm, value, fits, ?_, ?_⟩
  · intro x mem y made
    have value : y ∈ first.filterMap f := values ▸ List.mem_filterMap.mpr ⟨x, mem, made⟩
    obtain ⟨i, listed⟩ := exists_mem_zipIdx value
    simpa using others _ listed
  · rw [values, Nat.zero_add]

/-- Above a number that is counted from one stand all smaller ones but zero. -/
theorem range_eq_of_append {n row : Nat} {above below : List Nat}
    (h : List.range' 1 n = above ++ row :: below) : List.range row = 0 :: above := by
  obtain ⟨k, -, rfl, rest⟩ := List.range'_eq_append_iff.mp h
  obtain ⟨rfl, -⟩ := List.range'_eq_cons_iff.mp rest.symm
  rw [List.range_eq_range', Nat.mul_one, Nat.add_comm, List.range'_succ]

end Lists

namespace Document

/-- A row with its number and state. -/
def entry (d : Document) (row : Nat) : Nat × Text × LineState := (row, d.line row, d.state row)

/-- Where a row is hit. -/
def hitAt? (d : Document) (target : SearchTarget) (row : Nat) : Option (Nat × Nat) :=
  (target.hit? (d.line row) (d.state row)).map fun col => (row, col)

/-- The rule of a row, if it has one and is not switched off. -/
def activeRule? (d : Document) (row : Nat) : Option Rule :=
  if (d.state row).bypass then none else Rule.parse (d.line row) false

variable {d : Document} {target : SearchTarget}

/-- The lines and their states are those of the rows. -/
theorem zip_eq (states : d.states.length = d.lines.length) :
    d.lines.zip d.states = (List.range d.size).map fun row => (d.line row, d.state row) := by
  apply List.ext_getElem
  · simp [size, states]
  · intro row inside _
    rw [List.length_zip, states, Nat.min_self] at inside
    simp [line, state, inside, states]

/-- The rows are numbered from the first. -/
theorem rows_eq (states : d.states.length = d.lines.length) :
    d.rows = (List.range d.size).map d.entry := by
  rw [rows, zip_eq states]
  apply List.ext_getElem
  · simp
  · intro row _ _
    simp [entry]

/-- The rows beyond a row, in the order in which a search comes to them. -/
def order (d : Document) (forward : Bool) (start : Nat) : List Nat :=
  if forward then List.range' (start + 1) (d.size - (start + 1))
  else (List.range (min start d.size)).reverse

/-- A search goes through the rows in this order. -/
theorem search_eq (states : d.states.length = d.lines.length) (forward : Bool) (start : Nat) :
    d.search target forward start =
      searchRows target none ((d.order forward start).map d.entry) := by
  rw [search, rows_eq states, order]
  cases forward with
  | true =>
    have rows : (List.range d.size).drop (start + 1) =
        List.range' (start + 1) (d.size - (start + 1)) := by
      rw [List.range_eq_range', List.drop_range', Nat.mul_one, Nat.zero_add]
    rw [if_pos rfl, if_pos rfl, ← List.map_drop, rows]
  | false =>
    rw [if_neg Bool.false_ne_true, if_neg Bool.false_ne_true, ← List.map_take, List.take_range,
      List.map_reverse]

/-- A search keeps in mind the first hit among the rows that it goes past. -/
theorem searchRows_append {past : List Nat}
    (h : ∀ row ∈ past, (d.hitAt? target row).isSome → (d.state row).bypass)
    (skipped : Option (Nat × Nat)) (rest : List (Nat × Text × LineState)) :
    searchRows target skipped (past.map d.entry ++ rest) =
      searchRows target (skipped.or (past.findSome? (d.hitAt? target))) rest := by
  induction past generalizing skipped with
  | nil => rw [List.findSome?_nil, Option.or_none, List.map_nil, List.nil_append]
  | cons row past ih =>
    obtain ⟨here, below⟩ := List.forall_mem_cons.mp h
    rw [List.map_cons, List.cons_append, entry, searchRows, List.findSome?_cons]
    rw [hitAt?] at here ⊢
    cases hit : target.hit? (d.line row) (d.state row) with
    | none => exact ih below skipped
    | some col =>
      rw [hit] at here
      dsimp only
      rw [if_pos (here rfl), ih below]
      cases skipped <;> rfl

/-- A search ends at a row that is hit and switched on. -/
theorem searchRows_hit {past : List Nat} {row col : Nat}
    (h : ∀ row ∈ past, (d.hitAt? target row).isSome → (d.state row).bypass)
    (hit : target.hit? (d.line row) (d.state row) = some col) (on : (d.state row).bypass = false)
    (below : List Nat) :
    searchRows target none ((past ++ row :: below).map d.entry) =
      if (past.findSome? (d.hitAt? target)).isSome then .foundAfterInactive row col
      else .found row col := by
  rw [List.map_append, searchRows_append h, Option.none_or, List.map_cons, entry, searchRows, hit]
  dsimp only
  rw [on]
  rfl

/-- Without such a row it ends at the first hit, if there is one. -/
theorem searchRows_none {past : List Nat}
    (h : ∀ row ∈ past, (d.hitAt? target row).isSome → (d.state row).bypass) :
    searchRows target none (past.map d.entry) =
      match past.findSome? (d.hitAt? target) with
      | some (row, col) => .foundOnlyInactive row col
      | none => .nothing := by
  have all := searchRows_append h none []
  rw [List.append_nil, Option.none_or] at all
  rw [all]
  cases past.findSome? (d.hitAt? target) <;> rfl

variable {item : Item} {row : Nat} {r : Rule}

/-- The rule of a row that is not switched off. -/
theorem activeRule?_eq_some_iff :
    d.activeRule? row = some r ↔
      (d.state row).bypass = false ∧ Rule.parse (d.line row) false = some r := by
  rw [activeRule?]
  cases (d.state row).bypass <;> simp

/-- A search for an item goes past the rows whose active rule, if any, does not select it. -/
theorem bypass_of_hitAt?_item
    (h : ∀ r, d.activeRule? row = some r → r.selects item item.matchName = false)
    (hit : (d.hitAt? (.item item) row).isSome) : (d.state row).bypass := by
  rw [hitAt?, Option.isSome_map, SearchTarget.hit?] at hit
  refine Classical.byContradiction fun on => ?_
  cases parsed : Rule.parse (d.line row) false with
  | none =>
    rw [parsed] at hit
    contradiction
  | some r =>
    have other := h r (activeRule?_eq_some_iff.mpr ⟨Bool.eq_false_iff.mpr on, parsed⟩)
    rw [parsed, Option.bind_some, other] at hit
    contradiction

/-- If a rule set made from the active rules of some rows has a rule that selects an item, a search
for the item through these rows ends at the row of the first such rule. -/
theorem searchRows_item_of_some {s : RuleSet} {rows : List Nat} {k : Nat}
    (rules : s.rules = rows.filterMap d.activeRule?) (h : s.find? item item.name = some (k, r)) :
    ∃ above row below, rows = above ++ row :: below ∧ d.activeRule? row = some r ∧
      (above.filterMap d.activeRule?).length = k ∧
      (searchRows (.item item) none (rows.map d.entry)).position? = some (row, 0) := by
  obtain ⟨entry, found, same⟩ := Option.map_eq_some_iff.mp h
  obtain ⟨rfl, rfl⟩ := Prod.mk.inj same
  rw [rules] at found
  obtain ⟨above, row, below, rfl, active, selects, others, length⟩ :=
    exists_of_find?_filterMap (p := fun r : Rule => r.selects item item.matchName) found
  refine ⟨above, row, below, rfl, active, length, ?_⟩
  obtain ⟨on, parsed⟩ := activeRule?_eq_some_iff.mp active
  have hit : (SearchTarget.item item).hit? (d.line row) (d.state row) = some 0 := by
    rw [SearchTarget.hit?, parsed, Option.bind_some, if_pos selects]
  rw [searchRows_hit (fun i mem => bypass_of_hitAt?_item (others i mem)) hit on]
  split <;> rfl

/-- If it has none, the search ends nowhere or at a rule that is switched off. -/
theorem searchRows_item_of_none {s : RuleSet} {rows : List Nat}
    (rules : s.rules = rows.filterMap d.activeRule?) (h : s.find? item item.name = none) :
    let result := searchRows (.item item) none (rows.map d.entry)
    result.status? = some .notFound ∨ result.status? = some .foundOnlyInactive := by
  have others : ∀ row ∈ rows, ∀ r, d.activeRule? row = some r →
      r.selects item item.matchName = false := by
    intro row mem r active
    have value : r ∈ s.rules := rules ▸ List.mem_filterMap.mpr ⟨row, mem, active⟩
    obtain ⟨i, listed⟩ := exists_mem_zipIdx value
    have unselected := List.find?_eq_none.mp (Option.map_eq_none_iff.mp h) _ listed
    exact Bool.eq_false_iff.mpr unselected
  dsimp only
  rw [searchRows_none fun row mem => bypass_of_hitAt?_item (others row mem)]
  split
  · exact .inr rfl
  · exact .inl rfl

/-- The active rules are those of the rows, in order. -/
theorem rules_eq_activeRules (player : Player) (lines : List Text) :
    (RuleSet.ofLines player lines).rules =
      (List.range (ofLines player lines).size).filterMap (ofLines player lines).activeRule? := by
  rw [rules_eq_filterMap, zip_eq (ofLines_states_length player lines), List.filterMap_map]
  rfl

/-- An empty line on top is the first row, and no rule. -/
theorem rules_below_empty (player : Player) (lines : List Text) :
    (RuleSet.ofLines player lines).rules =
      (List.range' 1 lines.length).filterMap (ofLines player ([] :: lines)).activeRule? := by
  have all := rules_eq_activeRules player ([] :: lines)
  have rows : List.range (ofLines player ([] :: lines)).size = 0 :: List.range' 1 lines.length :=
    List.range_eq_range'
  rw [rows, List.filterMap_cons_none rfl] at all
  exact all

/-- A search from there goes through all other rows. -/
theorem search_below_empty (player : Player) (lines : List Text) (target : SearchTarget) :
    let d := ofLines player ([] :: lines)
    d.search target true 0 =
      searchRows target none ((List.range' 1 lines.length).map d.entry) :=
  search_eq (ofLines_states_length player ([] :: lines)) true 0

end Document

namespace Editor

/-- Searching for an item moves the cursor to where the search ends, and tells the player. -/
theorem apply_searchItem (e : Editor) (item : Item) :
    let result := e.document.search (.item item) true e.row
    let e' := (e.apply (.searchItem item)).1
    e'.document = e.document ∧ e'.row = (result.position?.map Prod.fst).getD e.row ∧
      e'.status = result.status? := by
  rw [apply_eq, prepare_eq]
  refine ⟨rfl, ?_, rfl⟩
  change (Option.getD _ (e.row, e.cursor.2)).1 = _
  cases (e.document.search (.item item) true e.row).position? <;> rfl

/-- An item is sought from the top of lines, above which an empty line was put. If one of the active
rules on the lines selects the item, the cursor goes to the row of the first such rule, below as
many rows with active rules as its position says. Otherwise the player is told that there is none,
or that it is switched off. -/
theorem searchItem_finds_first (lines : List Text) (player : Player) (limits : Limits)
    (item : Item) :
    let e := start ([] :: lines) player limits
    let e' := (e.apply (.searchItem item)).1
    match (RuleSet.ofLines e.player lines).find? item item.name with
    | some (k, r) =>
      (e'.document.state e'.row).bypass = false ∧ Rule.parse e'.line false = some r ∧
        (List.range e'.row).countP (fun row => (e'.document.activeRule? row).isSome) = k
    | none => e'.status = some .notFound ∨ e'.status = some .foundOnlyInactive := by
  intro e e'
  obtain ⟨document, row, status⟩ := apply_searchItem e item
  change e'.document = _ at document
  change e'.row = _ at row
  change e'.status = _ at status
  rw [line, document]
  have rules := Document.rules_below_empty e.player lines
  have search := Document.search_below_empty e.player lines (.item item)
  change e.document.search (.item item) true e.row = _ at search
  split
  · next k r found =>
    obtain ⟨above, found, below, split, active, length, position⟩ :=
      Document.searchRows_item_of_some rules found
    obtain ⟨on, parsed⟩ := Document.activeRule?_eq_some_iff.mp active
    rw [search, position, Option.map_some, Option.getD_some] at row
    rw [row, range_eq_of_append split, ← List.length_filterMap_eq_countP,
      List.filterMap_cons_none rfl]
    exact ⟨on, parsed, length⟩
  · next unfound =>
    rw [status, search]
    exact Document.searchRows_item_of_none rules unfound

end Editor

end LootRules
