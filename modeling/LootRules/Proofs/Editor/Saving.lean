import LootRules.Proofs.Editor.Bounds
import LootRules.Proofs.Editor.Contents
import LootRules.Proofs.Rule.Unbroken
import LootRules.Proofs.RuleFile

/-!
# What an editor saves

The lines of an editor are saved as a file. Reading the file gives the same lines if none of them
holds a line break, and if they are within the limits of the editor.

No line ever holds a line break, as long as no text with one in it is typed or put in. But lines can
become too long. Typing and joining are measured in columns, and reading counts characters, of
which a cluster may have many. Pasting, putting in lines and toggling are not measured at all. Where
only characters that stand alone are typed, and nothing is put in that is too long by itself, all
lines can be read again unless something is pasted or toggled.
-/

namespace LootRules

namespace Editor

/-- The line of the rule that is put in for an item. -/
def itemLine (item : Item) : Text := (Rule.ofItem item item.matchName).render

/-- The line of the rule that is put in for the item destroyed last. -/
def destroyedLine (item : Item) : Text :=
  let rule := Rule.ofItem item item.matchName
  Rule.render { rule with action := rule.action.withPolicy .destroy }

end Editor

open Editor (itemLine destroyedLine playerCondition)

/-- What a command brings in, or makes of lines without measuring them, has the property of
lines. -/
def Command.Suits (t : Traits) (player : Player) (limits : Limits) : Command → Prop
  | .insertChar c => ∀ l col, t.line l → Text.columns l < limits.maxLineLength →
      t.line (Text.insertAtColumn col c l)
  | .insertItem item => t.line (itemLine item)
  | .insertDestroyed => ∀ item, t.item item → t.line (destroyedLine item)
  | .insertConditional => t.line (playerCondition player) ∧ t.line "?:1"
  | .insertMacro trigger action =>
      t.line ("P:".toList ++ trigger) ∧ t.line ("A:".toList ++ action)
  | .insertKeymap mode key action =>
      t.line ("C:".toList ++ Text.decimal mode ++ ':' :: key) ∧ t.line ("A:".toList ++ action)
  | .paste => (∀ s, t.piece s → t.line s) ∧ ∀ l m, t.line l → t.line m → t.line (l ++ m)
  | .toggleAction _ | .toggleKeyword _ => t.Rewritable
  | _ => True

namespace Editor

variable {t : Traits} {e : Editor}

/-- Every command leaves an editor with the properties, if it brings in none without. -/
theorem Holds.run (h : Holds t e) (robust : t.Robust e.limits.maxLineLength) {command : Command}
    (suits : command.Suits t e.player e.limits) : Holds t (e.run command) := by
  cases command with
  | quitDiscard | quitSave | help => exact h
  | revert => exact h.revert robust
  | move motion => exact h.move robust motion
  | cut => exact h.cut robust
  | copy => exact h.copy robust
  | paste => exact h.paste robust (suits.1 _) (suits.2 _ _)
  | toggleMark =>
    rw [Editor.run, toggleMark]
    split <;> exact ⟨h.lines, h.saved, h.yank, h.destroyed⟩
  | killLine => exact h.killLine robust
  | deleteChar => exact h.deleteForward robust
  | backspace => exact h.deleteBack robust
  | breakLine => exact h.breakLine robust
  | insertChar c => exact h.insertChar robust suits
  | searchText _ | searchItem _ => exact h.searchFor _
  | searchForward | searchBackward => exact h.search _
  | searchDestroyed =>
    rw [Editor.run]
    exact h.withDestroyed fun item _ => h.searchFor _
  | insertItem item => exact h.insertLines robust (List.forall_mem_singleton.mpr suits) 0 0
  | insertDestroyed =>
    rw [Editor.run]
    refine h.withDestroyed fun item destroyed => ?_
    have line := suits item (h.destroyed item destroyed)
    exact h.insertLines robust (List.forall_mem_singleton.mpr line) 0 0
  | insertConditional | insertMacro _ _ | insertKeymap _ _ _ =>
    exact h.insertLines robust
      (List.forall_mem_cons.mpr ⟨suits.1, List.forall_mem_singleton.mpr suits.2⟩) _ _
  | toggleAction mask => exact h.toggleAction robust suits mask
  | toggleKeyword flag => exact h.toggleKeyword robust suits flag

/-- What comes before a command changes no text, and at most empties the yank buffer. -/
theorem Holds.prepare (h : Holds t e) (command : Command) : Holds t (e.prepare command) := by
  rw [prepare_eq]
  refine ⟨h.lines, h.saved, ?_, h.destroyed⟩
  dsimp only
  split
  · exact nofun
  · exact h.yank

/-- What comes after a command changes no text. -/
theorem Holds.apply (h : Holds t e) (robust : t.Robust e.limits.maxLineLength) {command : Command}
    (suits : command.Suits t e.player e.limits) : Holds t (e.apply command).1 := by
  obtain ⟨player, limits, -⟩ := alike_prepare e command
  rw [← limits] at robust
  rw [← limits, ← player] at suits
  obtain ⟨lines, saved, yank, destroyed⟩ := (h.prepare command).run robust suits
  rw [apply_eq]
  exact ⟨lines, saved, yank, destroyed⟩

/-- If an event is a command, or an item to be remembered, that has some property. -/
def Event.Has (commands : Command → Prop) (items : Item → Prop) : Event → Prop
  | .command c => commands c
  | .setLastDestroyed item => items item
  | .markSaved | .takeRedraw | .takeStatus => True

/-- What is true of a command is true of it as an event. -/
theorem Event.Has.imp {commands more : Command → Prop} {items : Item → Prop} {event : Event}
    (h : event.Has commands items) (all : ∀ c, commands c → more c) : event.Has more items := by
  cases event with
  | command c => exact all c h
  | setLastDestroyed _ | markSaved | takeRedraw | takeStatus => exact h

/-- What an event brings in has the properties. -/
def Event.Suits (t : Traits) (player : Player) (limits : Limits) : Event → Prop :=
  Event.Has (Command.Suits t player limits) t.item

/-- Every event leaves an editor with the properties, if it brings in none without. -/
theorem Holds.handle (h : Holds t e) (robust : t.Robust e.limits.maxLineLength) {event : Event}
    (suits : event.Suits t e.player e.limits) : Holds t (e.handle event) := by
  cases event with
  | command command => exact h.apply robust suits
  | markSaved => exact ⟨h.lines, h.lines, h.yank, h.destroyed⟩
  | setLastDestroyed item =>
    refine ⟨h.lines, h.saved, h.yank, fun other same => ?_⟩
    exact Option.some.inj same ▸ suits
  | takeRedraw | takeStatus => exact ⟨h.lines, h.saved, h.yank, h.destroyed⟩

/-- Events leave the player and the limits as they are. -/
theorem Reachable.fixed_handle (reached : Reachable e) (event : Event) :
    (e.handle event).player = e.player ∧ (e.handle event).limits = e.limits := by
  cases event with
  | command command =>
    have rewritten := rewrites_apply reached.wellFormed command
    exact ⟨rewritten.player, rewritten.limits⟩
  | markSaved | setLastDestroyed _ | takeRedraw | takeStatus => exact ⟨rfl, rfl⟩

/-- A run leaves an editor with the properties, if it brings in none without. -/
theorem Holds.handleAll (h : Holds t e) (reached : Reachable e)
    (robust : t.Robust e.limits.maxLineLength) {events : List Event}
    (suits : ∀ event ∈ events, event.Suits t e.player e.limits) :
    Holds t (e.handleAll events) := by
  induction events generalizing e with
  | nil => exact h
  | cons event events ih =>
    obtain ⟨first, rest⟩ := List.forall_mem_cons.mp suits
    obtain ⟨player, limits⟩ := reached.fixed_handle event
    refine ih (h.handle robust first) (reached.handle event) ?_ ?_
    · rw [limits]
      exact robust
    · rw [limits, player]
      exact rest

/-- An editor starts with the properties if the lines have that of lines. -/
theorem holds_start {lines : List Text} (nil : t.line []) (h : ∀ l ∈ lines, t.line l)
    (player : Player) (limits : Limits) : Holds t (start lines player limits) where
  lines l mem := (mem_lines_ofLines mem).elim (h l) fun empty => empty ▸ nil
  saved := h
  yank _ mem := absurd mem List.not_mem_nil
  destroyed _ kept := absurd kept (Option.not_mem_none _)

end Editor

/-! ## Line breaks -/

/-- The texts of an item that go into its rule are unbroken. -/
structure Item.Unbroken (item : Item) : Prop where
  name : item.name.Unbroken
  title : ∀ title ∈ item.ego, Text.Unbroken title
  inscription : ∀ text ∈ item.inscription, Text.Unbroken text

/-- Nothing with a line break in it is typed or put in. -/
def Command.Plain (player : Player) : Command → Prop
  | .insertChar c => Text.Unbroken [c]
  | .insertItem item => item.Unbroken
  | .insertConditional => player.race.Unbroken ∧ player.profession.Unbroken
  | .insertMacro trigger action => trigger.Unbroken ∧ action.Unbroken
  | .insertKeymap _ key action => key.Unbroken ∧ action.Unbroken
  | _ => True

namespace Editor

/-- Nothing with a line break in it is typed, put in or kept for that. -/
def Event.Plain (player : Player) : Event → Prop :=
  Event.Has (Command.Plain player) Item.Unbroken

/-- Everything is unbroken. -/
def unbrokenTraits : Traits := ⟨Text.Unbroken, Text.Unbroken, Item.Unbroken⟩

/-- Parts of unbroken lines are unbroken, and so are unbroken lines in one. -/
theorem robust_unbrokenTraits (limit : Nat) : unbrokenTraits.Robust limit where
  nil := by
    change Text.Unbroken []
    decide
  part sub h := Text.Unbroken.of_subset h sub.subset
  join hl hm _ := Text.Unbroken.append hl hm
  killed sub h := Text.Unbroken.of_subset h sub.subset
  more hs hu := Text.Unbroken.append hs hu

/-- The rule of an unbroken line is written on one line. -/
theorem rewritable_unbrokenTraits : unbrokenTraits.Rewritable := by
  intro l allowEmpty r h read action flags
  obtain ⟨name, inscription⟩ := Rule.unbroken_of_parse h read
  exact Rule.unbroken_render ⟨name, inscription⟩

/-- Rules for unbroken items are written on one line. -/
theorem unbroken_render_ofItem {item : Item} (h : item.Unbroken) (action : Action) :
    (Rule.render { Rule.ofItem item item.matchName with action }).Unbroken :=
  Rule.unbroken_render (Rule.unbroken_ofItem h.name.lower h.title h.inscription action)

/-- A condition for a player is unbroken if the words for race and profession are. -/
theorem unbroken_playerCondition {player : Player} (race : player.race.Unbroken)
    (profession : player.profession.Unbroken) : (playerCondition player).Unbroken := by
  have level : player.levelText.Unbroken := Text.Unbroken.zeroPadded 2 player.level.toNat
  have words : Text.Unbroken "?:[AND [EQU $RACE ".toList := by decide
  have more : Text.Unbroken "] [EQU $CLASS ".toList := by decide
  have least : Text.Unbroken "] [GEQ $LEVEL ".toList := by decide
  have close : Text.Unbroken "]]".toList := by decide
  exact (((((words.append race).append more).append profession).append least).append level).append
    close

/-- Commands that are plain bring in nothing but unbroken lines. -/
theorem suits_unbrokenTraits {player : Player} {command : Command} (h : command.Plain player)
    (limits : Limits) : command.Suits unbrokenTraits player limits := by
  have macroMark : Text.Unbroken "P:".toList := by decide
  have keymapMark : Text.Unbroken "C:".toList := by decide
  have actionMark : Text.Unbroken "A:".toList := by decide
  cases command with
  | insertChar c =>
    intro l col hl _
    have all : Text.insertAtColumn col c l ⊆ [c] ++ l := fun d mem =>
      (Text.mem_insertAtColumn mem).elim (fun same => same ▸ List.mem_cons_self)
        (List.mem_cons_of_mem c)
    exact Text.Unbroken.of_subset (Text.Unbroken.append h hl) all
  | insertItem item => exact unbroken_render_ofItem h _
  | insertDestroyed => exact fun item hi => unbroken_render_ofItem hi _
  | insertConditional =>
    refine ⟨unbroken_playerCondition h.1 h.2, ?_⟩
    change Text.Unbroken "?:1".toList
    decide
  | insertMacro trigger text =>
    exact ⟨macroMark.append h.1, actionMark.append h.2⟩
  | insertKeymap mode key text =>
    have keys := h.1.cons (c := ':') (by decide) (by decide)
    exact ⟨(keymapMark.append (.decimal mode)).append keys, actionMark.append h.2⟩
  | paste => exact ⟨fun _ hs => hs, fun _ _ hl hm => Text.Unbroken.append hl hm⟩
  | toggleAction _ | toggleKeyword _ => exact @rewritable_unbrokenTraits
  | _ => trivial

end Editor

/-! ## Length -/

/-- A line of characters that stand alone, not more than some number of them. -/
structure Text.Fits (limit : Nat) (l : Text) : Prop where
  alone : ∀ c ∈ l, Alone c
  short : l.length ≤ limit

instance (limit : Nat) (l : Text) : Decidable (Text.Fits limit l) :=
  decidable_of_iff (l.all (fun c => decide (Text.Alone c)) ∧ l.length ≤ limit) <| by
    simp only [List.all_eq_true, decide_eq_true_iff]
    exact ⟨fun h => ⟨h.1, h.2⟩, fun h => ⟨h.alone, h.short⟩⟩

/-- What is typed stands alone, and what is put in fits by itself. Pieces are not pasted, and rules
are not toggled. -/
def Command.Measured (player : Player) (limits : Limits) : Command → Prop
  | .insertChar c => Text.Alone c
  | .insertItem item => (itemLine item).Fits limits.maxLineLength
  | .insertConditional =>
      (playerCondition player).Fits limits.maxLineLength ∧
        Text.Fits limits.maxLineLength "?:1"
  | .insertMacro trigger action =>
      Text.Fits limits.maxLineLength ("P:".toList ++ trigger) ∧
        Text.Fits limits.maxLineLength ("A:".toList ++ action)
  | .insertKeymap mode key action =>
      Text.Fits limits.maxLineLength ("C:".toList ++ Text.decimal mode ++ ':' :: key) ∧
        Text.Fits limits.maxLineLength ("A:".toList ++ action)
  | .paste | .toggleAction _ | .toggleKeyword _ => False
  | _ => True

namespace Editor

/-- Commands are measured, and so is what is kept to be put in. -/
def Event.Measured (player : Player) (limits : Limits) : Event → Prop :=
  Event.Has (Command.Measured player limits) fun item =>
    (destroyedLine item).Fits limits.maxLineLength

/-- Lines fit, and the rule that destroys an item is a line that fits. -/
def fittingTraits (limit : Nat) : Traits :=
  ⟨Text.Fits limit, fun _ => True, fun item => (destroyedLine item).Fits limit⟩

/-- Parts of lines fit, and so do lines in one that has few enough columns. -/
theorem robust_fittingTraits (limit : Nat) : (fittingTraits limit).Robust limit where
  nil := ⟨nofun, Nat.zero_le limit⟩
  part sub h := ⟨fun c mem => h.alone c (sub.subset mem), Nat.le_trans sub.length_le h.short⟩
  join hl hm fits := by
    rw [Text.columns_of_alone hl.alone, Text.columns_of_alone hm.alone, ← List.length_append]
      at fits
    exact ⟨List.forall_mem_append.mpr ⟨hl.alone, hm.alone⟩, fits⟩
  killed _ _ := trivial
  more _ _ := trivial

/-- Measured commands bring in nothing but lines that fit. -/
theorem suits_fittingTraits {player : Player} {limits : Limits} {command : Command}
    (h : command.Measured player limits) :
    command.Suits (fittingTraits limits.maxLineLength) player limits := by
  cases command with
  | insertChar c =>
    intro l col hl room
    rw [Text.columns_of_alone hl.alone] at room
    refine ⟨fun d mem => ?_, ?_⟩
    · rcases Text.mem_insertAtColumn mem with rfl | old
      · exact h
      · exact hl.alone d old
    · rw [Text.length_insertAtColumn]
      exact room
  | insertDestroyed => exact fun _ destroyed => destroyed
  | insertItem _ | insertConditional | insertMacro _ _ | insertKeymap _ _ _ => exact h
  | paste | toggleAction _ | toggleKeyword _ => exact absurd h not_false
  | _ => trivial

/-! ## Saving and loading -/

/-- While all that happens is plain, lines stay unbroken. -/
theorem unbroken_handleAll {lines : List Text} (unbroken : ∀ l ∈ lines, Text.Unbroken l)
    (player : Player) (limits : Limits) {events : List Event}
    (plain : ∀ event ∈ events, event.Plain player) :
    ∀ l ∈ ((start lines player limits).handleAll events).lines, Text.Unbroken l := by
  have opened := Reachable.start lines player limits
  have robust := robust_unbrokenTraits limits.maxLineLength
  have begun : Holds unbrokenTraits (start lines player limits) :=
    holds_start robust.nil unbroken player limits
  have suits : ∀ event ∈ events, event.Suits unbrokenTraits player limits := fun event mem =>
    (plain event mem).imp fun _ given => suits_unbrokenTraits given limits
  exact (begun.handleAll opened robust suits).lines

/-- While all that happens is measured, lines stay short enough. -/
theorem fits_handleAll {lines : List Text} {limits : Limits}
    (fits : ∀ l ∈ lines, Text.Fits limits.maxLineLength l) (player : Player) {events : List Event}
    (measured : ∀ event ∈ events, event.Measured player limits) :
    ∀ l ∈ ((start lines player limits).handleAll events).lines,
      Text.Fits limits.maxLineLength l := by
  have opened := Reachable.start lines player limits
  have robust := robust_fittingTraits limits.maxLineLength
  have begun : Holds (fittingTraits limits.maxLineLength) (start lines player limits) :=
    holds_start robust.nil fits player limits
  have suits : ∀ event ∈ events,
      event.Suits (fittingTraits limits.maxLineLength) player limits := fun event mem =>
    (measured event mem).imp fun _ given => suits_fittingTraits given
  exact (begun.handleAll opened robust suits).lines

/-- An editor over few enough lines has few enough lines, unless none is allowed: it always has
one. -/
theorem length_lines_handleAll_le_iff {lines : List Text} {limits : Limits}
    (few : lines.length ≤ limits.maxLines) (player : Player) (events : List Event) :
    ((start lines player limits).handleAll events).lines.length ≤ limits.maxLines ↔
      0 < limits.maxLines := by
  obtain ⟨allowed, one⟩ := maxLines_le_maxSize limits lines
  have opened := Reachable.start lines player limits
  have filled : 0 < ((start lines player limits).handleAll events).lines.length :=
    List.length_pos_iff.mpr (opened.handleAll events).ready.lines_ne_nil
  have size : ((start lines player limits).handleAll events).lines.length ≤ maxSize limits lines :=
    ((kept_start lines player limits).handleAll opened allowed one events).size_le
  rw [maxSize] at size
  omega

/-- The lines that an editor saves are loaded again just if lines are allowed and none of these is
too long. None is if the characters of the text stand alone and all that happens is measured. -/
theorem readLines_of_saved_iff {limits : Limits} {text : Text} {lines : List Text}
    (accepted : RuleFile.splitLines limits text = .ok lines) (ret : ∀ l ∈ lines, '\r' ∉ l)
    (player : Player) {events : List Event} (plain : ∀ event ∈ events, event.Plain player) :
    let e := (start lines player limits).handleAll events
    (∀ {folder after : Folder} {path : Text}, folder.writeLines path e.lines = .ok after →
      (after.readLines path limits = .ok e.lines ↔
        0 < limits.maxLines ∧ ∀ l ∈ e.lines, l.length ≤ limits.maxLineLength)) ∧
      ((∀ l ∈ lines, ∀ c ∈ l, Text.Alone c) →
        (∀ event ∈ events, event.Measured player limits) →
          ∀ l ∈ e.lines, l.length ≤ limits.maxLineLength) := by
  intro e
  obtain ⟨rfl, short, few⟩ := RuleFile.splitLines_eq_ok_iff.mp accepted
  constructor
  · intro folder after path written
    have initially : ∀ l ∈ Text.lines text, Text.Unbroken l := fun l mem =>
      ⟨Text.not_mem_of_mem_lines mem, ret l mem⟩
    have unbroken : ∀ l ∈ e.lines, Text.Unbroken l :=
      unbroken_handleAll initially player limits plain
    have number : e.lines.length ≤ limits.maxLines ↔ 0 < limits.maxLines :=
      length_lines_handleAll_le_iff few player events
    rw [Folder.readLines_of_writeLines unbroken written limits, number, and_comm]
  · intro alone measured l mem
    have initially : ∀ l ∈ Text.lines text, Text.Fits limits.maxLineLength l := fun l mem =>
      ⟨alone l mem, short l mem⟩
    exact (fits_handleAll initially player measured l mem).short

/-- In a folder without files a file of some lines can be written. -/
theorem writeLines_rulesFile (lines : List Text) :
    ({} : Folder).writeLines "rules.prf" lines =
      .ok ⟨[("rules.prf".toList, RuleFile.encode lines)]⟩ :=
  rfl

/-- A dagger. -/
def dagger : Item where
  name := "Dagger"
  kind := .sword

/-- A mark is typed, the line is broken behind it, and the rule for a dagger is put in. -/
def additions : List Event :=
  [.command (.insertChar '#'), .command .breakLine, .command (.insertItem dagger), .markSaved]

/-- The lines after some additions to two rules are loaded again. -/
theorem readLines_of_saved_additions :
    let limits : Limits := { maxLineLength := 24 }
    let lines : List Text := ["~rings", "(!^potion of water"]
    let e := (start lines {} limits).handleAll additions
    let after : Folder := ⟨[("rules.prf".toList, RuleFile.encode e.lines)]⟩
    RuleFile.splitLines limits "~rings\n(!^potion of water\n" = .ok lines ∧
      (∀ l ∈ lines, '\r' ∉ l) ∧ (∀ event ∈ additions, event.Plain {}) ∧
      ({} : Folder).writeLines "rules.prf" e.lines = .ok after ∧
      (∀ l ∈ lines, ∀ c ∈ l, Text.Alone c) ∧
      (∀ event ∈ additions, event.Measured {} limits) ∧
      e.lines = ["#".toList, "nameless weapons:^dagger".toList, "~rings".toList,
        "(!^potion of water".toList] ∧
      after.readLines "rules.prf" limits = .ok e.lines := by
  intro limits lines e after
  have accepted : RuleFile.splitLines limits "~rings\n(!^potion of water\n" = .ok lines := by
    rfl
  have ret : ∀ l ∈ lines, '\r' ∉ l := by decide
  have plain : ∀ event ∈ additions, event.Plain {} := by
    intro event mem
    simp only [additions, List.mem_cons, List.not_mem_nil, or_false] at mem
    rcases mem with rfl | rfl | rfl | rfl
    · change Text.Unbroken ['#']
      decide
    · trivial
    · exact (⟨by decide, nofun, nofun⟩ : dagger.Unbroken)
    · trivial
  have written := writeLines_rulesFile e.lines
  have fits : ∀ l ∈ lines, l.Fits limits.maxLineLength := by decide +kernel
  have alone : ∀ l ∈ lines, ∀ c ∈ l, Text.Alone c := fun l mem => (fits l mem).alone
  have measured : ∀ event ∈ additions, event.Measured {} limits := by
    intro event mem
    simp only [additions, List.mem_cons, List.not_mem_nil, or_false] at mem
    rcases mem with rfl | rfl | rfl | rfl
    · change Text.Alone '#'
      decide +kernel
    · trivial
    · change (itemLine dagger).Fits 24
      decide +kernel
    · trivial
  have edited : e.lines = ["#".toList, "nameless weapons:^dagger".toList, "~rings".toList,
      "(!^potion of water".toList] := by
    decide +kernel
  obtain ⟨loaded, short⟩ := readLines_of_saved_iff accepted ret {} plain
  exact ⟨accepted, ret, plain, written, alone, measured, edited,
    (loaded written).mpr ⟨by decide, short alone measured⟩⟩

/-- A letter, an accent over it, and another letter: two columns, but three characters. -/
def accented : List Event :=
  "e\u0301x".toList.map fun c => .command (.insertChar c)

/-- With two characters to a line, a line with an accent can be typed and saved that is too long to
be loaded. -/
theorem readLines_of_saved_accented :
    let limits : Limits := { maxLineLength := 2 }
    let e := (start [] {} limits).handleAll accented
    let after : Folder := ⟨[("rules.prf".toList, RuleFile.encode e.lines)]⟩
    RuleFile.splitLines limits [] = .ok [] ∧ (∀ event ∈ accented, event.Plain {}) ∧
      e.lines = ["e\u0301x".toList] ∧ ({} : Folder).writeLines "rules.prf" e.lines = .ok after ∧
      after.readLines "rules.prf" limits = .error (.lineTooLong 1 3) := by
  intro limits e after
  have plain : ∀ event ∈ accented, event.Plain {} := by
    intro event mem
    obtain ⟨c, hc, rfl⟩ := List.mem_map.mp mem
    have unbroken : Text.Unbroken "e\u0301x".toList := by decide
    exact unbroken.of_subset (List.cons_subset.mpr ⟨hc, List.nil_subset _⟩)
  have lines : e.lines = ["e\u0301x".toList] := by decide +kernel
  have loaded : after.readLines "rules.prf" limits = .error (.lineTooLong 1 3) := by
    have read := Folder.read_of_write (Folder.write_of_writeLines (writeLines_rulesFile e.lines))
    rw [Folder.readLines, read, RuleFile.load, RuleFile.decode?_encode, lines]
    rfl
  exact ⟨rfl, plain, lines, writeLines_rulesFile e.lines, loaded⟩

end Editor

end LootRules
