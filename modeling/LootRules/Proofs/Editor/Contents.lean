import LootRules.Proofs.Editor.Rewriting
import LootRules.Proofs.Text.Columns

/-!
# What an editor holds

An editor holds lines, those of the document and those saved; pieces of text in the yank buffer;
and perhaps the item destroyed last. Suppose that the lines have some property that is passed on to
parts of lines, and to lines joined where that is not refused, and that whatever is cut or killed
has a property too. Then most commands leave it at that. The others bring in text that is not
measured, and leave it at that if this text has the property as well.
-/

namespace LootRules

/-- Properties of what an editor holds: of its lines, of the pieces of its yank buffer, and of the
item destroyed last. -/
structure Traits where
  line : Text → Prop
  piece : Text → Prop
  item : Item → Prop

/-- Lines up to some length are cut, killed and joined without losing their property. -/
structure Traits.Robust (t : Traits) (limit : Nat) : Prop where
  nil : t.line []
  part {s l : Text} : s.Sublist l → t.line l → t.line s
  join {l m : Text} : t.line l → t.line m → Text.columns l + Text.columns m ≤ limit →
    t.line (l ++ m)
  killed {s l : Text} : s.Sublist l → t.line l → t.piece s
  more {s u : Text} : t.piece s → t.piece u → t.piece (s ++ u)

/-- The rules of lines with a property are written with that property, whatever is done to their
action and their flags. -/
def Traits.Rewritable (t : Traits) : Prop :=
  ∀ {l : Text} {allowEmpty : Bool} {r : Rule}, t.line l → Rule.parse l allowEmpty = some r →
    ∀ action flags, t.line { r with action, flags }.render

namespace Editor

/-- What an editor holds has some properties. -/
structure Holds (t : Traits) (e : Editor) : Prop where
  lines : ∀ l ∈ e.lines, t.line l
  saved : ∀ l ∈ e.saved, t.line l
  yank : ∀ s ∈ e.yank.segments, t.piece s
  destroyed : ∀ item ∈ e.lastDestroyed, t.item item

variable {t : Traits} {e : Editor}

/-- The lines of a document made from lines are these, or there is one empty line. -/
theorem mem_lines_ofLines {player : Player} {lines : List Text} {l : Text}
    (h : l ∈ (Document.ofLines player lines).lines) : l ∈ lines ∨ l = [] := by
  cases lines with
  | nil => exact .inr (List.mem_singleton.mp h)
  | cons line lines => exact .inl h

/-- A row of an editor has the property of lines, and so has the empty row beyond the last. -/
theorem Holds.line (h : Holds t e) {limit : Nat} (robust : t.Robust limit) (row : Nat) :
    t.line (e.document.line row) := by
  rw [Document.line, List.getD_eq_getElem?_getD]
  cases found : e.document.lines[row]? with
  | none => exact robust.nil
  | some l => exact h.lines l (List.mem_of_getElem? found)

/-- Moving the cursor changes nothing that an editor holds. -/
theorem Holds.moved (h : Holds t e) (row col : Nat) : Holds t { e with row, col } :=
  ⟨h.lines, h.saved, h.yank, h.destroyed⟩

/-- An edit puts in lines, which have to have the property. -/
theorem Holds.edit (h : Holds t e) {limit : Nat} (robust : t.Robust limit) {lines : List Text}
    (hl : ∀ l ∈ lines, t.line l) (redraw : Redraw) : Holds t (e.edit lines redraw) where
  lines l mem := (mem_lines_ofLines mem).elim (hl l) fun empty => empty ▸ robust.nil
  saved := h.saved
  yank := h.yank
  destroyed := h.destroyed

/-- Lines around new ones have the property. -/
theorem Holds.around (h : Holds t e) {new : List Text} (hn : ∀ l ∈ new, t.line l) (i j : Nat) :
    ∀ l ∈ e.lines.take i ++ new ++ e.lines.drop j, t.line l := by
  intro l hl
  rw [List.mem_append, List.mem_append] at hl
  rcases hl with (above | here) | below
  · exact h.lines l (List.mem_of_mem_take above)
  · exact hn l here
  · exact h.lines l (List.mem_of_mem_drop below)

/-- Lines of which one has been replaced have the property. -/
theorem Holds.set (h : Holds t e) {line : Text} (hl : t.line line) (row : Nat) :
    ∀ l ∈ e.lines.set row line, t.line l := fun l mem =>
  (List.mem_or_eq_of_mem_set mem).elim (h.lines l) fun same => same ▸ hl

/-- Deleting a cluster leaves a part of the line. -/
theorem Holds.eraseCluster (h : Holds t e) {limit : Nat} (robust : t.Robust limit) :
    Holds t e.eraseCluster := by
  have part := Text.eraseColumns_sublist (s := e.line) (.inl (Nat.le_succ e.col))
  exact h.edit robust (h.set (robust.part part (h.line robust e.row)) e.row) _

/-- Deleting a line break joins two lines that fit. -/
theorem Holds.joinBelow (h : Holds t e) (robust : t.Robust e.limits.maxLineLength)
    (fits : e.JoinFits) : Holds t e.joinBelow := by
  have joined : ∀ l ∈ [e.line ++ e.document.line (e.row + 1)], t.line l :=
    List.forall_mem_singleton.mpr
      (robust.join (h.line robust e.row) (h.line robust (e.row + 1)) fits)
  have lines := h.around joined e.row (e.row + 2)
  rw [List.append_assoc] at lines
  exact (h.moved e.row e.width).edit robust lines _

/-- Deleting backward leaves parts of lines, and lines that fit. -/
theorem Holds.deleteBack (h : Holds t e) (robust : t.Robust e.limits.maxLineLength) :
    Holds t e.deleteBack.1 := by
  rcases deleteBack_cases e with ⟨-, done⟩ | ⟨-, -, done⟩ | ⟨-, -, fits, done⟩ | ⟨-, -, -, done⟩
  · rw [done]
    exact (h.moved e.row (e.col - 1)).eraseCluster robust
  · rw [done]
    exact h
  · rw [done]
    exact (h.moved (e.row - 1) e.col).joinBelow robust fits
  · rw [done]
    exact ⟨h.lines, h.saved, h.yank, h.destroyed⟩

/-- Deleting forward leaves parts of lines, and lines that fit. -/
theorem Holds.deleteForward (h : Holds t e) (robust : t.Robust e.limits.maxLineLength) :
    Holds t e.deleteForward.1 := by
  rcases deleteForward_cases e with
    ⟨-, done⟩ | ⟨-, -, done⟩ | ⟨-, -, fits, done⟩ | ⟨-, -, -, done⟩
  · rw [done]
    exact h.eraseCluster robust
  · rw [done]
    exact h
  · rw [done]
    exact h.joinBelow robust fits
  · rw [done]
    exact ⟨h.lines, h.saved, h.yank, h.destroyed⟩

/-- Text behind the last of some segments makes one more segment, or a longer one. -/
theorem forall_mem_extendLast {P : Text → Prop} (more : ∀ {s u}, P s → P u → P (s ++ u))
    {text : Text} (ht : P text) {segments : List Text} (h : ∀ s ∈ segments, P s) :
    ∀ s ∈ Yank.extendLast text segments, P s := by
  fun_induction Yank.extendLast text segments with
  | case1 => exact List.forall_mem_singleton.mpr ht
  | case2 last => exact List.forall_mem_singleton.mpr (more (h last List.mem_cons_self) ht)
  | case3 first next rest ih =>
    obtain ⟨hf, hr⟩ := List.forall_mem_cons.mp h
    exact List.forall_mem_cons.mpr ⟨hf, ih hr⟩

/-- Killed text is put behind what has been killed before. -/
theorem forall_mem_pushText {P : Text → Prop} (more : ∀ {s u}, P s → P u → P (s ++ u))
    {text : Text} (ht : P text) {yank : Yank} (h : ∀ s ∈ yank.segments, P s) :
    ∀ s ∈ (yank.pushText text).segments, P s := by
  rw [Yank.pushText]
  split
  · exact List.forall_mem_append.mpr ⟨h, List.forall_mem_singleton.mpr ht⟩
  · exact forall_mem_extendLast more ht h

/-- A killed line break may leave an empty piece. -/
theorem forall_mem_pushBreak {P : Text → Prop} (nil : P []) {yank : Yank}
    (h : ∀ s ∈ yank.segments, P s) : ∀ s ∈ yank.pushBreak.segments, P s := by
  rw [Yank.pushBreak]
  split
  · exact List.forall_mem_append.mpr ⟨h, List.forall_mem_singleton.mpr nil⟩
  · exact h

/-- Killing leaves parts of lines, and takes parts of lines. -/
theorem Holds.killLine (h : Holds t e) (robust : t.Robust e.limits.maxLineLength) :
    Holds t e.killLine := by
  have line := h.line robust e.row
  rw [Editor.killLine]
  split
  · have taken := robust.killed (Text.fromColumn_sublist e.col e.line) line
    have killed : Holds t { e with yank := e.yank.pushText (Text.fromColumn e.col e.line) } :=
      ⟨h.lines, h.saved, forall_mem_pushText robust.more taken h.yank, h.destroyed⟩
    exact killed.edit robust
      (h.set (robust.part (Text.beforeColumn_sublist e.col e.line) line) e.row) _
  · have after := h.deleteForward robust
    split
    · next done =>
      rw [done] at after
      have nil := robust.killed (List.Sublist.refl []) robust.nil
      exact ⟨after.lines, after.saved, forall_mem_pushBreak nil after.yank, after.destroyed⟩
    · next refused =>
      rw [refused] at after
      exact after

/-- Breaking a line leaves parts of it. -/
theorem Holds.breakLine (h : Holds t e) {limit : Nat} (robust : t.Robust limit) :
    Holds t e.breakLine := by
  have line := h.line robust e.row
  rw [Editor.breakLine]
  split
  · exact ⟨h.lines, h.saved, h.yank, h.destroyed⟩
  · have parts : ∀ l ∈ [Text.beforeColumn e.col e.line, Text.fromColumn e.col e.line], t.line l :=
      List.forall_mem_cons.mpr ⟨robust.part (Text.beforeColumn_sublist e.col e.line) line,
        List.forall_mem_singleton.mpr (robust.part (Text.fromColumn_sublist e.col e.line) line)⟩
    have lines := h.around parts e.row (e.row + 1)
    rw [List.append_assoc] at lines
    exact (h.moved (e.row + 1) 0).edit robust lines _

/-- A row below the cursor is there, or is empty. -/
theorem Holds.withRowBelow? (h : Holds t e) {limit : Nat} (robust : t.Robust limit) {e' : Editor}
    (below : e.withRowBelow? = some e') : Holds t e' := by
  unfold Editor.withRowBelow? at below
  split at below
  · obtain rfl := Option.some.inj below
    exact h
  · split at below
    · contradiction
    · obtain rfl := Option.some.inj below
      have lines : ∀ l ∈ e.lines ++ [[]], t.line l :=
        List.forall_mem_append.mpr ⟨h.lines, List.forall_mem_singleton.mpr robust.nil⟩
      exact ⟨fun l mem => (mem_lines_ofLines mem).elim (lines l) fun empty => empty ▸ robust.nil,
        h.saved, h.yank, h.destroyed⟩

/-- Moving the cursor appends at most an empty row. -/
theorem Holds.move (h : Holds t e) {limit : Nat} (robust : t.Robust limit) (motion : Motion) :
    Holds t (e.move motion) := by
  have same {row col top : Nat} : Holds t { e with row, col, top } :=
    ⟨h.lines, h.saved, h.yank, h.destroyed⟩
  cases motion with
  | left =>
    rw [Editor.move]
    split
    · exact same
    · split
      · exact same
      · exact h
  | right =>
    rw [Editor.move]
    split
    · exact same
    · split
      · next below => exact (h.withRowBelow? robust below).moved _ _
      · exact h
  | down =>
    rw [Editor.move]
    split
    · next below => exact (h.withRowBelow? robust below).moved _ _
    · exact h
  | up | lineStart | lineEnd | pageUp | pageDown | top | bottom => exact same

/-- The text of a region is made of parts of lines. -/
theorem Holds.regionYank (h : Holds t e) {limit : Nat} (robust : t.Robust limit) (region : Region) :
    ∀ s ∈ (e.regionYank region).segments, t.piece s := by
  cases region with
  | rows first last =>
    intro s hs
    have mem : s ∈ e.lines := List.mem_of_mem_drop (List.mem_of_mem_take hs)
    exact robust.killed (List.Sublist.refl s) (h.lines s mem)
  | span row first last =>
    exact List.forall_mem_singleton.mpr
      (robust.killed (Text.betweenColumns_sublist first last _) (h.line robust row))

/-- Copying takes parts of lines. -/
theorem Holds.copy (h : Holds t e) {limit : Nat} (robust : t.Robust limit) : Holds t e.copy :=
  ⟨h.lines, h.saved, h.regionYank robust e.region, h.destroyed⟩

/-- A region within a row is one of columns of the cursor's row, in order, or reaches to its end. -/
theorem order_of_region_span {row first last : Nat} (region : e.region = .span row first last) :
    first ≤ last ∨ Text.columns (e.document.line row) ≤ last := by
  obtain ⟨other, rfl, rfl, rfl⟩ := exists_of_region_span region
  change _ ∨ e.width ≤ _
  omega

/-- Cutting leaves lines and parts of lines, and takes parts of lines. -/
theorem Holds.cut (h : Holds t e) {limit : Nat} (robust : t.Robust limit) : Holds t e.cut := by
  have copied := h.copy robust
  rw [Editor.cut]
  split
  · next first last region =>
    refine (copied.moved first 0).edit robust (fun l hl => ?_) _
    rcases List.mem_append.mp hl with above | below
    · exact h.lines l (List.mem_of_mem_take above)
    · split at below
      · exact List.mem_singleton.mp below ▸ robust.nil
      · exact h.lines l (List.mem_of_mem_drop below)
  · next row first last region =>
    have part := Text.eraseColumns_sublist (order_of_region_span region)
    exact (copied.moved _ first).edit robust
      (h.set (robust.part part (h.line robust row)) row) _

/-- Going back to the saved text leaves lines that were there. -/
theorem Holds.revert (h : Holds t e) {limit : Nat} (robust : t.Robust limit) :
    Holds t e.revert where
  lines l mem := (mem_lines_ofLines mem).elim (h.saved l) fun empty => empty ▸ robust.nil
  saved := h.saved
  yank := h.yank
  destroyed := h.destroyed

/-- Searching changes nothing that an editor holds. -/
theorem Holds.search (h : Holds t e) (forward : Bool) : Holds t (e.search forward) := by
  rw [Editor.search]
  split <;> exact ⟨h.lines, h.saved, h.yank, h.destroyed⟩

/-- Starting a search changes nothing that an editor holds. -/
theorem Holds.searchFor (h : Holds t e) (target : Option SearchTarget) :
    Holds t (e.searchFor target) := by
  have aimed : Holds t { e with target } := ⟨h.lines, h.saved, h.yank, h.destroyed⟩
  exact aimed.search true

/-- What is done with the item destroyed last depends on that item. -/
theorem Holds.withDestroyed (h : Holds t e) {act : Editor → Item → Editor}
    (each : ∀ item ∈ e.lastDestroyed, Holds t (act e item)) : Holds t (e.withDestroyed act) := by
  rw [Editor.withDestroyed]
  split
  · next item destroyed => exact each item destroyed
  · exact ⟨h.lines, h.saved, h.yank, h.destroyed⟩

/-- Putting in a character makes a line with it. -/
theorem Holds.insertChar (h : Holds t e) {limit : Nat} (robust : t.Robust limit) {c : Char}
    (typed : ∀ l col, t.line l → Text.columns l < e.limits.maxLineLength →
      t.line (Text.insertAtColumn col c l)) : Holds t (e.insertChar c) := by
  rw [Editor.insertChar]
  split
  · exact ⟨h.lines, h.saved, h.yank, h.destroyed⟩
  · next room =>
    have line := typed e.line e.col (h.line robust e.row) (Nat.lt_of_not_le room)
    exact (h.moved e.row (e.col + 1)).edit robust (h.set line e.row) _

/-- Putting in lines brings in these. -/
theorem Holds.insertLines (h : Holds t e) {limit : Nat} (robust : t.Robust limit)
    {lines : List Text} (new : ∀ l ∈ lines, t.line l) (row col : Nat) :
    Holds t (e.insertLines lines row col) := by
  rw [Editor.insertLines]
  split
  · exact ⟨h.lines, h.saved, h.yank, h.destroyed⟩
  · exact (h.moved _ col).edit robust (h.around new e.row e.row) _

/-- Pasting makes lines of parts of a line and of pieces, of any length. -/
theorem Holds.paste (h : Holds t e) {limit : Nat} (robust : t.Robust limit)
    (pasted : ∀ {s}, t.piece s → t.line s)
    (joined : ∀ {l m}, t.line l → t.line m → t.line (l ++ m)) :
    Holds t e.paste := by
  have line := h.line robust e.row
  rcases paste_cases e with ⟨-, done⟩ | ⟨-, -, done⟩ | ⟨-, -, done⟩
  · rw [done]
    exact h
  · have all : ∀ s ∈ pieces e.yank, t.line s := by
      intro s hs
      rw [pieces, List.mem_append] at hs
      rcases hs with segment | last
      · exact pasted (h.yank s segment)
      · split at last
        · exact List.mem_singleton.mp last ▸ robust.nil
        · contradiction
    have begun : ∀ s ∈ prependFirst (Text.beforeColumn e.col e.line) (pieces e.yank), t.line s := by
      have before := robust.part (Text.beforeColumn_sublist e.col e.line) line
      cases first : pieces e.yank with
      | nil => exact List.forall_mem_singleton.mpr before
      | cons piece rest =>
        rw [first] at all
        obtain ⟨hp, hr⟩ := List.forall_mem_cons.mp all
        exact List.forall_mem_cons.mpr ⟨joined before hp, hr⟩
    have new := forall_mem_extendLast joined
      (robust.part (Text.fromColumn_sublist e.col e.line) line) begun
    rw [done]
    exact (h.moved _ _).edit robust (h.around new e.row (e.row + 1)) _
  · rw [done]
    exact ⟨h.lines, h.saved, h.yank, h.destroyed⟩

/-- Toggling a part of the action writes the rule of a line. -/
theorem Holds.toggleAction (h : Holds t e) {limit : Nat} (robust : t.Robust limit)
    (rewritable : t.Rewritable) (mask : Action) : Holds t (e.toggleAction mask) := by
  rw [Editor.toggleAction]
  split
  · exact h
  · next rule read =>
    split
    · exact h
    · next action _ =>
      have line := rewritable (h.line robust e.row) read action rule.flags
      exact (h.moved e.row _).edit robust (h.set line e.row) _

/-- Toggling a flag writes the rules of lines. -/
theorem forall_mem_toggleLines (rewritable : t.Rewritable) (f : Flag) (adding : Option Bool)
    {lines : List Text} (h : ∀ l ∈ lines, t.line l) :
    ∀ l ∈ (toggleLines f adding lines).2, t.line l := by
  induction lines generalizing adding with
  | nil => exact nofun
  | cons line lines ih =>
    obtain ⟨first, rest⟩ := List.forall_mem_cons.mp h
    rw [toggleLines]
    cases read : Rule.parse line adding.isNone with
    | none => exact List.forall_mem_cons.mpr ⟨first, ih _ rest⟩
    | some rule =>
      exact List.forall_mem_cons.mpr ⟨rewritable first read rule.action _, ih _ rest⟩

/-- Toggling a flag writes the rules of lines between mark and cursor. -/
theorem Holds.toggleKeyword (h : Holds t e) {limit : Nat} (robust : t.Robust limit)
    (rewritable : t.Rewritable) (f : Flag) : Holds t (e.toggleKeyword f) := by
  rw [Editor.toggleKeyword]
  split
  next first last rows =>
  split
  · exact h
  · next done toggled =>
    have block : ∀ l ∈ (e.lines.drop first).take (last + 1 - first), t.line l := fun l hl =>
      h.lines l (List.mem_of_mem_drop (List.mem_of_mem_take hl))
    have new := forall_mem_toggleLines rewritable f none block
    rw [toggled] at new
    exact h.edit robust (h.around new first (last + 1)) _

end Editor

end LootRules
