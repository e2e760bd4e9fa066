import LootRules.Proofs.Rule.RoundTrip
import LootRules.Proofs.Session.Events
import Mathlib.Data.List.Forall2

/-!
# The history of a session

Everything that a session holds can be told from what it started with and from what it has answered
since. Each addition has put one rule at the end of the rules and has handed out the line of that
rule, the first of them behind the header of the block of registered items; nothing else has
changed the rules or the header. So a rule that was found for an item once is found ever after.
The item destroyed last is that of the last event that destroyed one, by hand or by an addition.

One event keeps these facts up, whatever the session has gone through before, and so does every run.
-/

namespace LootRules

/-- A rule that selects an item first does so too when rules are added at the end. -/
theorem RuleSet.find?_eq_some_of_prefix {s t : RuleSet} (h : s.rules <+: t.rules) {item : Item}
    {name : Text} {entry : Nat × Rule} (found : s.find? item name = some entry) :
    t.find? item name = some entry := by
  obtain ⟨more, parts⟩ := h
  rw [find?, Option.map_eq_some_iff] at found
  obtain ⟨numbered, first, swapped⟩ := found
  rw [find?, ← parts, List.zipIdx_append, List.find?_append, first, Option.some_or, Option.map_some,
    swapped]

/-- The line of a rule is not the header of the block of registered items. -/
theorem Rule.render_ne_registerHeader (r : Rule) : r.render ≠ registerHeader := by
  intro same
  have native := r.isForeign_render
  rw [same] at native
  contradiction

namespace Session

/-- An event with the answer to it. There is none where an item is just destroyed. -/
structure Entry where
  event : Event
  answer : Option Registration

namespace Entry

/-- The lines of an addition. -/
def added? : Entry → Option (List Text)
  | ⟨_, some (.added lines)⟩ => some lines
  | _ => none

/-- The item that was destroyed, by hand or because it was added. -/
def destroyed? : Entry → Option Item
  | ⟨.recordDestroyed item, _⟩ => some item
  | ⟨.register item _, some (.added _)⟩ => some item
  | _ => none

end Entry

/-- The entry that a session makes for an event. -/
def entry (s : Session) (event : Event) : Entry where
  event := event
  answer :=
    match event with
    | .register item name => some (s.register item name).2
    | .recordDestroyed _ => none

/-- The entries that a session makes for some events, one after the other. -/
def history (s : Session) : List Event → List Entry
  | [] => []
  | event :: events => s.entry event :: (s.handle event).1.history events

/-- The lines of all additions, in order. -/
def additions (entries : List Entry) : List (List Text) := entries.filterMap Entry.added?

/-- A rule that destroys and is not shown on the map, and the lines that were handed out for it,
of which its own line is the last. -/
def Announces (r : Rule) (lines : List Text) : Prop :=
  r.action = Action.single false .destroy ∧ lines.getLast? = some r.render

/-- What has become of a session, as told by its entries. -/
structure Follows (first : Session) (entries : List Entry) (now : Session) : Prop where
  /-- The header is there from the start, or was handed out. -/
  registered : now.player.autoregister ↔
    first.player.autoregister ∨ ∃ lines ∈ additions entries, registerHeader ∈ lines
  /-- The header was not handed out twice, nor where it was there from the start. -/
  once : (additions entries).flatten.count registerHeader ≤
    if first.player.autoregister then 0 else 1
  /-- Each addition has put a rule at the end. -/
  rules : ∃ rules, now.rules.rules = first.rules.rules ++ rules ∧
    List.Forall₂ Announces rules (additions entries)
  /-- The last entry that destroyed an item tells which. -/
  lastDestroyed : now.lastDestroyed =
    (entries.filterMap Entry.destroyed?).getLast?.or first.lastDestroyed

/-- Without entries nothing has changed. -/
theorem Follows.refl (s : Session) : Follows s [] s where
  registered := by simp [additions]
  once := Nat.zero_le _
  rules := ⟨[], (List.append_nil _).symm, .nil⟩
  lastDestroyed := rfl

/-- An event is answered without effect, adds the rule of an item, or destroys an item. -/
theorem handle_cases (s : Session) (event : Event) :
    ((s.entry event).added? = none ∧ (s.entry event).destroyed? = none ∧
        (s.handle event).1 = s) ∨
      (∃ item name, (s.entry event).added? = some (s.opening ++ [(destroyRule item name).render]) ∧
        (s.entry event).destroyed? = some item ∧ (s.handle event).1 = s.withItem item name) ∨
      ∃ item, (s.entry event).added? = none ∧ (s.entry event).destroyed? = some item ∧
        (s.handle event).1 = s.recordDestroyed item := by
  cases event with
  | recordDestroyed item => exact .inr (.inr ⟨item, rfl, rfl, rfl⟩)
  | register item name =>
    rw [handle, entry]
    dsimp only
    cases found : s.rules.find? item name with
    | some entry =>
      rw [register_of_found found]
      left
      dsimp only
      split <;> exact ⟨rfl, rfl, rfl⟩
    | none =>
      rw [register_of_none found]
      exact .inr (.inl ⟨item, name, rfl, rfl, rfl⟩)

/-- A registration that adds nothing changes nothing. -/
theorem register_eq_self {s : Session} {item : Item} {name : Text}
    (h : (s.register item name).2 = .alreadyDestroyed ∨ (s.register item name).2 = .refused) :
    (s.register item name).1 = s := by
  cases found : s.rules.find? item name with
  | some entry => rw [register_of_found found]
  | none =>
    rw [register_of_none found] at h
    rcases h with h | h <;> contradiction

/-- The opening has the header once, unless there is none. -/
theorem count_registerHeader_opening (s : Session) :
    s.opening.count registerHeader = if s.player.autoregister then 0 else 1 := by
  rw [opening]
  split
  · rfl
  · decide

variable {first now : Session} {entries : List Entry}

/-- An entry without addition adds no lines. -/
theorem additions_append_of_none (entries : List Entry) {e : Entry} (h : e.added? = none) :
    additions (entries ++ [e]) = additions entries := by
  simp [additions, h]

/-- An entry with an addition adds its lines. -/
theorem additions_append_of_some (entries : List Entry) {e : Entry} {lines : List Text}
    (h : e.added? = some lines) :
    additions (entries ++ [e]) = additions entries ++ [lines] := by
  simp [additions, h]

/-- The item destroyed last is that of the last entry, if it destroyed one. -/
theorem getLast?_destroyed_append (e : Entry) :
    ((entries ++ [e]).filterMap Entry.destroyed?).getLast? =
      e.destroyed?.or (entries.filterMap Entry.destroyed?).getLast? := by
  cases h : e.destroyed? <;> simp [h]

namespace Follows

/-- As long as the header is not there, no addition has it. -/
theorem count_eq_zero (h : Follows first entries now)
    (unregistered : ¬ now.player.autoregister) :
    (additions entries).flatten.count registerHeader = 0 := by
  rw [List.count_eq_zero, List.mem_flatten]
  exact fun lines => unregistered (h.registered.mpr (.inr lines))

/-- An addition hands out the header if it is not there yet, and not otherwise. -/
theorem once_withItem (h : Follows first entries now) (r : Rule) :
    (additions entries ++ [now.opening ++ [r.render]]).flatten.count registerHeader ≤
      if first.player.autoregister then 0 else 1 := by
  have line : [r.render].count registerHeader = 0 :=
    List.count_eq_zero.mpr fun mem => r.render_ne_registerHeader (List.mem_singleton.mp mem).symm
  rw [List.flatten_append, List.count_append, List.flatten_singleton, List.count_append, line,
    count_registerHeader_opening]
  by_cases header : now.player.autoregister
  · rw [if_pos header]
    exact h.once
  · have start : ¬ first.player.autoregister := fun start => header (h.registered.mpr (.inl start))
    simp [h.count_eq_zero header, header, start]

/-- Adding the rule of an item is told by its entry. -/
theorem withItem (h : Follows first entries now) {e : Entry} {item : Item} {name : Text}
    (added : e.added? = some (now.opening ++ [(destroyRule item name).render]))
    (destroyed : e.destroyed? = some item) :
    Follows first (entries ++ [e]) (now.withItem item name) := by
  have handed := additions_append_of_some entries added
  obtain ⟨rules, grown, announced⟩ := h.rules
  constructor
  · refine iff_of_true rfl ?_
    rw [handed]
    by_cases header : now.player.autoregister
    · rcases h.registered.mp header with start | ⟨lines, mem, there⟩
      · exact .inl start
      · exact .inr ⟨lines, List.mem_append_left _ mem, there⟩
    · refine .inr ⟨_, List.mem_append_right _ List.mem_cons_self, ?_⟩
      rw [Session.opening, if_neg header]
      simp
  · rw [handed]
    exact h.once_withItem (destroyRule item name)
  · refine ⟨rules ++ [destroyRule item name], ?_, ?_⟩
    · rw [← List.append_assoc, ← grown]
      rfl
    · rw [handed]
      exact List.rel_append announced (.cons ⟨rfl, List.getLast?_concat⟩ .nil)
  · rw [getLast?_destroyed_append, destroyed]
    rfl

/-- Where nothing is added, only the item destroyed last may be another, as told by the entry. -/
theorem of_added_eq_none (h : Follows first entries now) {e : Entry} {later : Session}
    (added : e.added? = none) (player : later.player = now.player) (rules : later.rules = now.rules)
    (destroyed : later.lastDestroyed = e.destroyed?.or now.lastDestroyed) :
    Follows first (entries ++ [e]) later := by
  have handed := additions_append_of_none entries added
  constructor
  · rw [handed, player]
    exact h.registered
  · rw [handed]
    exact h.once
  · rw [handed, rules]
    exact h.rules
  · rw [destroyed, h.lastDestroyed, getLast?_destroyed_append, Option.or_assoc]

/-- What an event does is told by its entry. -/
theorem handle (h : Follows first entries now) (event : Event) :
    Follows first (entries ++ [now.entry event]) (now.handle event).1 := by
  rcases now.handle_cases event with
    ⟨added, destroyed, done⟩ | ⟨item, name, added, destroyed, done⟩ | ⟨item, added, destroyed, done⟩
  · refine h.of_added_eq_none added ?_ ?_ ?_ <;> rw [done]
    rw [destroyed, Option.none_or]
  · rw [done]
    exact h.withItem added destroyed
  · refine h.of_added_eq_none added ?_ ?_ ?_ <;> rw [done]
    · rfl
    · rfl
    · rw [destroyed]
      rfl

/-- What a run does is told by its entries. -/
theorem handleAll (h : Follows first entries now) (events : List Event) :
    Follows first (entries ++ now.history events) (now.handleAll events).1 := by
  induction events generalizing entries now with
  | nil =>
    rw [history, List.append_nil]
    exact h
  | cons event events ih =>
    have later := ih (h.handle event)
    rw [List.append_assoc] at later
    exact later

end Follows

/-- A run of two parts ends where the second part ends behind the first. -/
theorem handleAll_append (s : Session) (earlier later : List Event) :
    (s.handleAll (earlier ++ later)).1 = ((s.handleAll earlier).1.handleAll later).1 := by
  induction earlier generalizing s with
  | nil => rfl
  | cons event earlier ih => exact ih (s.handle event).1

/-- In every run of a session over a text, and so at every point of it: the player is taken to have
registered items just if the text has the header or it was handed out; it was handed out at most
once, and not at all where the text has it; the rules are those of the start and one for each
addition; a rule that was found for an item is found again; registrations that add nothing change
nothing; and the item destroyed last is that of the last event that destroyed one. -/
theorem handleAll_start_invariants (text : Text) (player : Player) (events : List Event) :
    let first := start text player
    let entries := first.history events
    let now := (first.handleAll events).1
    (now.player.autoregister ↔ registerHeader ∈ Text.lines text ∨
        ∃ lines ∈ additions entries, registerHeader ∈ lines) ∧
      (additions entries).flatten.count registerHeader ≤
        (if registerHeader ∈ Text.lines text then 0 else 1) ∧
      (∃ rules, now.rules.rules = first.rules.rules ++ rules ∧
        List.Forall₂ Announces rules (additions entries)) ∧
      (∀ earlier, earlier <+: events → ∀ item name found,
        (first.handleAll earlier).1.rules.find? item name = some found →
          now.rules.find? item name = some found) ∧
      (∀ item name, (now.register item name).2 = .alreadyDestroyed ∨
          (now.register item name).2 = .refused → (now.register item name).1 = now) ∧
      now.lastDestroyed = (entries.filterMap Entry.destroyed?).getLast? := by
  intro first entries now
  have told : Follows first entries now := (Follows.refl first).handleAll events
  have header : first.player.autoregister ↔ registerHeader ∈ Text.lines text := by
    change (Text.lines text).any (· = registerHeader) = true ↔ _
    rw [List.any_eq_true]
    simp
  refine ⟨?_, ?_, told.rules, ?_, fun item name => register_eq_self, ?_⟩
  · rw [← header]
    exact told.registered
  · simp only [← header]
    exact told.once
  · rintro earlier ⟨later, rfl⟩ item name found before
    have grown := ((Follows.refl (first.handleAll earlier).1).handleAll later).rules
    obtain ⟨rules, added, -⟩ := grown
    refine RuleSet.find?_eq_some_of_prefix ⟨rules, ?_⟩ before
    rw [← added, ← handleAll_append]
  · rw [told.lastDestroyed]
    exact Option.or_none

/-- A potion that nobody wants. -/
def saltWater : Item where
  name := "Potion of Salt Water"
  kind := .potion

/-- The potion is registered, a ring is destroyed, and the potion is registered again. -/
def clearance : List Event :=
  [.register saltWater saltWater.name,
    .recordDestroyed { name := "Ring of Teleportation", kind := .ring },
    .register saltWater saltWater.name]

/-- The rule that was added for the potion is found again at the end of the run, when registering
the potion changes nothing. -/
theorem handleAll_start_invariants_clearance :
    let first := start "~rings\n".toList {}
    let now := (first.handleAll clearance).1
    let rule := destroyRule saltWater saltWater.name
    clearance.take 1 <+: clearance ∧
      (first.handleAll (clearance.take 1)).1.rules.find? saltWater saltWater.name =
        some (1, rule) ∧
      now.rules.find? saltWater saltWater.name = some (1, rule) ∧
      (now.register saltWater saltWater.name).2 = .alreadyDestroyed ∧
      (now.register saltWater saltWater.name).1 = now := by
  intro first now rule
  have part : clearance.take 1 <+: clearance := List.take_prefix 1 clearance
  have before : (first.handleAll (clearance.take 1)).1.rules.find? saltWater saltWater.name =
      some (1, rule) := by
    decide +kernel
  have answer : (now.register saltWater saltWater.name).2 = .alreadyDestroyed := by
    decide +kernel
  obtain ⟨-, -, -, found, unchanged, -⟩ :=
    handleAll_start_invariants "~rings\n".toList {} clearance
  exact ⟨part, before, found _ part _ _ _ before, answer, unchanged _ _ (.inl answer)⟩

end Session

end LootRules
