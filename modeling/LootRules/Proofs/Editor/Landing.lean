import LootRules.Proofs.Editor.Search
import LootRules.Proofs.Text

/-!
# Where a search ends

A search looks through the rows below the cursor, or through those above it from the last to the
first. It ends at the nearest row that fits and is switched on, and the player is told if it passed
rows that fit but are switched off. If all rows that fit are switched off, it ends at the nearest of
them, and if no row fits, the cursor stays.

This needs of a document that its states are those of its lines as far as conditions are concerned.
Which rows are switched off does not matter.
-/

namespace LootRules

/-- In a list in order, the elements above one are those that come before it. -/
theorem mem_above_iff {α : Type _} {R : α → α → Prop} (asymm : ∀ a b, R a b → ¬ R b a)
    {above below : List α} {a b : α} (ordered : (above ++ a :: below).Pairwise R) :
    b ∈ above ↔ b ∈ above ++ a :: below ∧ R b a := by
  obtain ⟨-, after, before⟩ := List.pairwise_append.mp ordered
  constructor
  · intro mem
    exact ⟨List.mem_append_left _ mem, before b mem a List.mem_cons_self⟩
  · rintro ⟨mem, comes⟩
    rcases List.mem_append.mp mem with first | rest
    · exact first
    · rcases List.mem_cons.mp rest with rfl | later
      · exact absurd comes (asymm b b comes)
      · exact absurd comes (asymm a b (List.rel_of_pairwise_cons after later))

/-- Whether the other row comes after the row in the direction of a search. -/
def Beyond (forward : Bool) (row other : Nat) : Prop :=
  if forward then row < other else other < row

/-- No two rows come after each other. -/
theorem not_beyond_of_beyond {forward : Bool} {row other : Nat} (h : Beyond forward row other) :
    ¬ Beyond forward other row := by
  cases forward <;> exact Nat.lt_asymm h

/-- The row to which a search comes first among some rows. -/
def Nearest (forward : Bool) (rows : Nat → Prop) (row : Nat) : Prop :=
  rows row ∧ ∀ other, rows other → ¬ Beyond forward other row

/-- In a list of rows in the order of a search, the first of some of them is the nearest. -/
theorem nearest_of_first {forward : Bool} {rows : Nat → Prop} {above below : List Nat} {row : Nat}
    (ordered : (above ++ row :: below).Pairwise (Beyond forward))
    (listed : ∀ i, rows i → i ∈ above ++ row :: below) (here : rows row)
    (others : ∀ i ∈ above, ¬ rows i) : Nearest forward rows row := by
  refine ⟨here, fun other isOther comes => others other ?_ isOther⟩
  exact (mem_above_iff (fun _ _ => not_beyond_of_beyond) ordered).mpr ⟨listed other isOther, comes⟩

namespace Document

/-- Every line has a state, which says whether the line is a condition. -/
structure Labelled (d : Document) : Prop where
  states_length : d.states.length = d.lines.length
  expression : ∀ row < d.size, (d.state row).expression ↔ Condition.linePrefix <+: d.line row

/-- A document that is made from lines is labelled. -/
theorem labelled_ofLines (player : Player) (lines : List Text) :
    (ofLines player lines).Labelled where
  states_length := ofLines_states_length player lines
  expression _ inside := expression_state_ofLines inside

/-- Whether a row is sought: for a text, if it is no condition and holds the text, and for an item,
if it has a rule that selects the item. -/
def Fits (d : Document) (row : Nat) : SearchTarget → Prop
  | .text needle => ¬ Condition.linePrefix <+: d.line row ∧ needle <:+: d.line row
  | .item item => ∃ r, Rule.parse (d.line row) false = some r ∧ r.selects item item.matchName

/-- The rows beyond a row that are sought. -/
structure Hits (d : Document) (target : SearchTarget) (forward : Bool) (start row : Nat) :
    Prop where
  inside : row < d.size
  beyond : Beyond forward start row
  fits : d.Fits row target

variable {d : Document} {target : SearchTarget}

/-- The rows that are hit are those that are sought. -/
theorem isSome_hitAt?_iff (labelled : d.Labelled) {row : Nat} (inside : row < d.size) :
    (d.hitAt? target row).isSome ↔ d.Fits row target := by
  rw [hitAt?, Option.isSome_map]
  cases target with
  | text needle =>
    rw [SearchTarget.hit?, Fits, ← labelled.expression row inside, ← Text.occurs_iff, Text.occurs]
    cases (d.state row).expression <;> simp
  | item item =>
    rw [SearchTarget.hit?, Fits]
    cases Rule.parse (d.line row) false <;> simp

/-- The rows that a search comes to are those beyond. -/
theorem mem_order {forward : Bool} {start row : Nat} :
    row ∈ d.order forward start ↔ row < d.size ∧ Beyond forward start row := by
  rw [order, Beyond]
  cases forward with
  | true =>
    rw [if_pos rfl, if_pos rfl, List.mem_range'_1]
    omega
  | false =>
    rw [if_neg Bool.false_ne_true, if_neg Bool.false_ne_true, List.mem_reverse, List.mem_range]
    omega

/-- The rows come one after the other. -/
theorem pairwise_order (forward : Bool) (start : Nat) :
    (d.order forward start).Pairwise (Beyond forward) := by
  rw [order]
  cases forward with
  | true => exact List.pairwise_lt_range'
  | false => exact List.pairwise_reverse.mpr List.pairwise_lt_range

/-- The rows beyond that are sought are those that a search comes to and that are hit. -/
theorem hits_iff (labelled : d.Labelled) {forward : Bool} {start row : Nat} :
    d.Hits target forward start row ↔
      row ∈ d.order forward start ∧ (d.hitAt? target row).isSome := by
  constructor
  · rintro ⟨inside, beyond, fits⟩
    exact ⟨mem_order.mpr ⟨inside, beyond⟩, (isSome_hitAt?_iff labelled inside).mpr fits⟩
  · rintro ⟨mem, hit⟩
    obtain ⟨inside, beyond⟩ := mem_order.mp mem
    exact ⟨inside, beyond, (isSome_hitAt?_iff labelled inside).mp hit⟩

/-- What the end of a search says about the rows that are hit: the row at which it ends is the
nearest that is switched on, with or without a nearer one that is switched off; or the nearest at
all, with none that is switched on; or there is none. -/
def Tells (forward : Bool) (hits on : Nat → Prop) : SearchResult → Prop
  | .found row _ => Nearest forward on row ∧ ¬ ∃ other, hits other ∧ Beyond forward other row
  | .foundAfterInactive row _ =>
    Nearest forward on row ∧ ∃ other, hits other ∧ Beyond forward other row
  | .foundOnlyInactive row _ => Nearest forward hits row ∧ ¬ ∃ other, on other
  | .nothing => ¬ ∃ row, hits row

section Tells

variable {forward : Bool} {hits : Nat → Prop} {rows above below : List Nat} {row : Nat}

/-- A search that comes to a row that is switched on, past rows that are not, ends there. -/
theorem tells_of_lit (ordered : (above ++ row :: below).Pairwise (Beyond forward))
    (isHit : ∀ i, hits i ↔ i ∈ above ++ row :: below ∧ (d.hitAt? target i).isSome)
    (dark : ∀ i ∈ above, (d.hitAt? target i).isSome → (d.state i).bypass)
    (here : (d.hitAt? target row).isSome) (lit : (d.state row).bypass = false) :
    Tells forward hits (fun i => hits i ∧ (d.state i).bypass = false)
      (searchRows target none ((above ++ row :: below).map d.entry)) := by
  have isRow : hits row := (isHit row).mpr ⟨List.mem_append_right _ List.mem_cons_self, here⟩
  have nearest : Nearest forward (fun i => hits i ∧ (d.state i).bypass = false) row := by
    refine nearest_of_first ordered (fun i on => ((isHit i).mp on.1).1) ⟨isRow, lit⟩ ?_
    rintro i mem ⟨isOther, litOther⟩
    rw [dark i mem ((isHit i).mp isOther).2] at litOther
    contradiction
  have passed : (above.findSome? (d.hitAt? target)).isSome ↔
      ∃ other, hits other ∧ Beyond forward other row := by
    rw [List.findSome?_isSome_iff]
    refine exists_congr fun other => ?_
    rw [mem_above_iff (fun _ _ => not_beyond_of_beyond) ordered, isHit, and_right_comm]
  obtain ⟨col, column⟩ : ∃ col, target.hit? (d.line row) (d.state row) = some col := by
    rw [hitAt?, Option.isSome_map] at here
    exact Option.isSome_iff_exists.mp here
  rw [searchRows_hit dark column lit below]
  by_cases passes : (above.findSome? (d.hitAt? target)).isSome
  · rw [if_pos passes]
    exact ⟨nearest, passed.mp passes⟩
  · rw [if_neg passes]
    exact ⟨nearest, fun nearer => passes (passed.mpr nearer)⟩

/-- A search that comes to no row that is switched on ends at the first row that is hit. -/
theorem tells_of_dark (ordered : rows.Pairwise (Beyond forward))
    (isHit : ∀ i, hits i ↔ i ∈ rows ∧ (d.hitAt? target i).isSome)
    (dark : ∀ i ∈ rows, (d.hitAt? target i).isSome → (d.state i).bypass) :
    Tells forward hits (fun i => hits i ∧ (d.state i).bypass = false)
      (searchRows target none (rows.map d.entry)) := by
  rw [searchRows_none dark]
  cases found : rows.findSome? (d.hitAt? target) with
  | none =>
    rintro ⟨row, isRow⟩
    obtain ⟨mem, hit⟩ := (isHit row).mp isRow
    exact Option.isSome_iff_ne_none.mp hit (List.findSome?_eq_none_iff.mp found row mem)
  | some place =>
    obtain ⟨above, row, below, rfl, here, others⟩ := List.findSome?_eq_some_iff.mp found
    obtain ⟨col, -, rfl⟩ := Option.map_eq_some_iff.mp here
    have isRow : hits row :=
      (isHit row).mpr ⟨List.mem_append_right _ List.mem_cons_self, Option.isSome_of_eq_some here⟩
    constructor
    · refine nearest_of_first ordered (fun i isOther => ((isHit i).mp isOther).1) isRow ?_
      intro i mem isOther
      exact Option.isSome_iff_ne_none.mp ((isHit i).mp isOther).2 (others i mem)
    · rintro ⟨other, isOther, lit⟩
      obtain ⟨mem, hit⟩ := (isHit other).mp isOther
      rw [dark other mem hit] at lit
      contradiction

/-- The end of a search through rows in order tells which of them are hit. -/
theorem tells_searchRows (ordered : rows.Pairwise (Beyond forward))
    (isHit : ∀ i, hits i ↔ i ∈ rows ∧ (d.hitAt? target i).isSome) :
    Tells forward hits (fun i => hits i ∧ (d.state i).bypass = false)
      (searchRows target none (rows.map d.entry)) := by
  cases first : rows.find? fun i => (d.hitAt? target i).isSome && !(d.state i).bypass with
  | some row =>
    obtain ⟨fits, above, below, rfl, others⟩ := List.find?_eq_some_iff_append.mp first
    obtain ⟨here, lit⟩ := Bool.and_eq_true_iff.mp fits
    refine tells_of_lit ordered isHit (fun i mem hit => ?_) here (by simpa using lit)
    simpa [hit] using others i mem
  | none =>
    refine tells_of_dark ordered isHit fun i mem hit => ?_
    simpa [hit] using List.find?_eq_none.mp first i mem

end Tells

end Document

namespace Editor

/-- A search ends at the nearest row that is sought and switched on, with a word to the player if
there are nearer ones that are switched off; else at the nearest row that is sought, with a word
that it is switched off; and else the cursor stays, with a word that there is none. -/
theorem search_lands (e : Editor) (labelled : e.document.Labelled) (target : SearchTarget)
    (forward : Bool) :
    let e' := { e with target := some target }.search forward
    let hits := e.document.Hits target forward e.row
    let on := fun row => hits row ∧ (e.document.state row).bypass = false
    let off := fun row => hits row ∧ (e.document.state row).bypass = true
    ((∃ row, on row) →
        Nearest forward on e'.row ∧
          (e'.status = none ∨ e'.status = some .skippedInactive) ∧
          (e'.status = some .skippedInactive ↔
            ∃ row, off row ∧ Beyond forward row e'.row)) ∧
      ((∃ row, hits row) → (¬ ∃ row, on row) →
        Nearest forward hits e'.row ∧ e'.status = some .foundOnlyInactive) ∧
      ((¬ ∃ row, hits row) →
        e'.row = e.row ∧ e'.col = e.col ∧ e'.status = some .notFound) := by
  intro e' hits on off
  have tells : Document.Tells forward hits on (e.document.search target forward e.row) := by
    rw [Document.search_eq labelled.states_length]
    exact Document.tells_searchRows (e.document.pairwise_order forward e.row)
      fun _ => Document.hits_iff labelled
  have place : (e'.row, e'.col) =
      (e.document.search target forward e.row).position?.getD (e.row, e.col) := rfl
  have status : e'.status = (e.document.search target forward e.row).status? := rfl
  clear_value e'
  cases ended : e.document.search target forward e.row with
  | found row col =>
    rw [ended] at tells place status
    obtain ⟨rfl, -⟩ := Prod.mk.inj place
    obtain ⟨nearest, unpassed⟩ := tells
    refine ⟨fun _ => ⟨nearest, .inl status, iff_of_false (status ▸ nofun) ?_⟩, ?_, ?_⟩
    · rintro ⟨other, isOff, nearer⟩
      exact unpassed ⟨other, isOff.1, nearer⟩
    · exact fun _ unlit => absurd ⟨_, nearest.1⟩ unlit
    · exact fun noHit => absurd ⟨_, nearest.1.1⟩ noHit
  | foundAfterInactive row col =>
    rw [ended] at tells place status
    obtain ⟨rfl, -⟩ := Prod.mk.inj place
    obtain ⟨nearest, other, isOther, nearer⟩ := tells
    have isOff : off other := by
      refine ⟨isOther, Bool.of_not_eq_false fun lit => ?_⟩
      exact nearest.2 other ⟨isOther, lit⟩ nearer
    refine ⟨fun _ => ⟨nearest, .inr status, iff_of_true status ⟨other, isOff, nearer⟩⟩, ?_, ?_⟩
    · exact fun _ unlit => absurd ⟨_, nearest.1⟩ unlit
    · exact fun noHit => absurd ⟨_, isOther⟩ noHit
  | foundOnlyInactive row col =>
    rw [ended] at tells place status
    obtain ⟨rfl, -⟩ := Prod.mk.inj place
    obtain ⟨nearest, unlit⟩ := tells
    refine ⟨fun lit => absurd lit unlit, fun _ _ => ⟨nearest, status⟩, ?_⟩
    exact fun noHit => absurd ⟨_, nearest.1⟩ noHit
  | nothing =>
    rw [ended] at tells place status
    obtain ⟨row, col⟩ := Prod.mk.inj place
    refine ⟨?_, fun hit => absurd hit tells, fun _ => ⟨row, col, status⟩⟩
    rintro ⟨other, isOn⟩
    exact absurd ⟨other, isOn.1⟩ tells

/-- An editor over two rules for rings, of which the first is switched off. -/
def switchedRings : Editor :=
  start ["# rings".toList, "?:0".toList, "~rings".toList, "?:1".toList, "rings".toList] {} {}

/-- A search for rings from the top passes the rule that is switched off, and ends at the other. -/
theorem search_lands_switchedRings :
    let e := switchedRings
    let e' := { e with target := some (.text "rings".toList) }.search true
    let hits := e.document.Hits (.text "rings".toList) true e.row
    let on := fun row => hits row ∧ (e.document.state row).bypass = false
    e.document.Labelled ∧ hits 2 ∧ on 4 ∧ e'.row = 4 ∧ Nearest true on e'.row ∧
      e'.status = some .skippedInactive := by
  intro e e' hits on
  have labelled : e.document.Labelled := Document.labelled_ofLines _ _
  have passed : hits 2 := (Document.hits_iff labelled).mpr (by decide +kernel)
  have ended : on 4 := ⟨(Document.hits_iff labelled).mpr (by decide +kernel), by decide +kernel⟩
  have lands := (search_lands e labelled (.text "rings".toList) true).1 ⟨4, ended⟩
  have row : e'.row = 4 := by decide +kernel
  refine ⟨labelled, passed, ended, row, lands.1, lands.2.2.mpr ⟨2, ⟨passed, by decide +kernel⟩, ?_⟩⟩
  change Beyond true 2 e'.row
  rw [row]
  exact (by decide : 2 < 4)

end Editor

end LootRules
