import LootRules.Proofs.Editor.Redraw
import LootRules.Proofs.Editor.Rows
import LootRules.Proofs.Rule.Flagging

/-!
# Toggling a flag on rows

A flag is toggled on all rows between mark and cursor. The first of them that has a rule decides
whether it is put in or taken out, and an empty row counts there, since it is the rule for all
items. From then on empty rows are left alone, like all rows that are no rules. So it is said of
every row of the document what becomes of it, and the rules are read back as `Toggled` says,
unless a name begins with `realm's`.

The rows below the one that decides need not have the flag that is taken out of them, but they
lose the other members of its group with it.
-/

namespace LootRules

/-- A line with a flag put in or taken out, if it is a rule and not empty. -/
def toggledLine (f : Flag) (add : Bool) (line : Text) : Text :=
  match Rule.parse line false with
  | none => line
  | some rule => (rule.setFlag f add).render

/-- Once it is decided what is done, it is done to each line. -/
theorem toggleLines_of_decided (f : Flag) (add : Bool) (lines : List Text) :
    toggleLines f (some add) lines = (some add, lines.map (toggledLine f add)) := by
  induction lines with
  | nil => rfl
  | cons line lines ih =>
    have read : Rule.parse line (some add).isNone = Rule.parse line false := rfl
    rw [toggleLines, List.map_cons, toggledLine, read]
    cases Rule.parse line false with
    | none => simp only [ih]
    | some rule => simp only [Option.getD_some, ih]

/-- Lines without a rule are left alone. -/
theorem toggleLines_of_silent {f : Flag} {lines : List Text}
    (silent : ∀ line ∈ lines, Rule.parse line true = none) :
    toggleLines f none lines = (none, lines) := by
  induction lines with
  | nil => rfl
  | cons line lines ih =>
    have first : Rule.parse line (none : Option Bool).isNone = none :=
      silent line List.mem_cons_self
    rw [toggleLines, first, ih fun l hl => silent l (List.mem_cons_of_mem line hl)]

/-- The first line that has a rule decides, and what is decided is done to it and to the lines below
it. -/
theorem toggleLines_of_first {f : Flag} {lines : List Text} {k : Nat} {line : Text} {rule : Rule}
    (here : lines[k]? = some line) (read : Rule.parse line true = some rule)
    (silent : ∀ i < k, ∀ l ∈ lines[i]?, Rule.parse l true = none) :
    let add := !rule.flags.contains f
    (toggleLines f none lines).1 = some add ∧
      ∀ i, (toggleLines f none lines).2[i]? =
        if i < k then lines[i]? else if i = k then some (rule.setFlag f add).render
        else lines[i]?.map (toggledLine f add) := by
  intro add
  induction lines generalizing k with
  | nil => contradiction
  | cons l lines ih =>
    cases k with
    | zero =>
      obtain rfl := Option.some.inj here
      have decided : toggleLines f none (l :: lines) =
          (some add, (rule.setFlag f add).render :: lines.map (toggledLine f add)) := by
        have first : Rule.parse l (none : Option Bool).isNone = some rule := read
        rw [toggleLines, first]
        simp only [toggleLines_of_decided, Option.getD_none]
        rfl
      rw [decided]
      refine ⟨rfl, fun i => ?_⟩
      cases i with
      | zero => rfl
      | succ i => exact List.getElem?_map
    | succ k =>
      have first : Rule.parse l (none : Option Bool).isNone = none :=
        silent 0 (Nat.succ_pos k) l rfl
      have below := ih here fun i hi => silent (i + 1) (Nat.succ_lt_succ hi)
      have passed : toggleLines f none (l :: lines) =
          ((toggleLines f none lines).1, l :: (toggleLines f none lines).2) := by
        rw [toggleLines, first]
      rw [passed]
      refine ⟨below.1, fun i => ?_⟩
      cases i with
      | zero => rfl
      | succ i =>
        simp only [List.getElem?_cons_succ, below.2 i, Nat.succ_lt_succ_iff, Nat.succ_inj]

/-- Rows in place of others. -/
theorem getElem?_splice {α : Type} {lines between : List α} {first last : Nat}
    (order : first ≤ last) (bound : last < lines.length)
    (length : between.length = last + 1 - first) (row : Nat) :
    (lines.take first ++ between ++ lines.drop (last + 1))[row]? =
      if first ≤ row ∧ row ≤ last then between[row - first]? else lines[row]? := by
  have above : (lines.take first).length = first := List.length_take_of_le (by omega)
  by_cases before : row < first
  · rw [if_neg (by omega), List.append_assoc, List.getElem?_append_left (by omega),
      List.getElem?_take_of_lt before]
  · by_cases inside : row ≤ last
    · rw [if_pos (by omega), List.append_assoc, List.getElem?_append_right (by omega), above,
        List.getElem?_append_left (by omega)]
    · have upTo : (lines.take first ++ between).length = last + 1 := by
        rw [List.length_append]
        omega
      rw [if_neg (by omega), List.getElem?_append_right (by omega), upTo, List.getElem?_drop]
      congr 1
      omega

namespace Editor

/-- The row that decides whether a flag is put in or taken out: the first one between mark and
cursor that has a rule, where an empty row counts. -/
structure Decides (e : Editor) (d : Nat) (rule : Rule) : Prop where
  first_le : e.blockRows.1 ≤ d
  le_last : d ≤ e.blockRows.2
  read : Rule.parse (e.document.line d) true = some rule
  silent : ∀ row, e.blockRows.1 ≤ row → row < d →
    Rule.parse (e.document.line row) true = none

/-- A row in which the flag is then put in or taken out: the row that decides, or one below it up to
the end of the block that has a rule and is not empty. -/
structure Takes (e : Editor) (d row : Nat) (r : Rule) : Prop where
  le : d ≤ row
  le_last : row ≤ e.blockRows.2
  read : Rule.parse (e.document.line row) (decide (row = d)) = some r

variable {e : Editor}

/-- The lines between mark and cursor. -/
def blockLines (e : Editor) : List Text :=
  (e.lines.drop e.blockRows.1).take (e.blockRows.2 + 1 - e.blockRows.1)

/-- The lines between mark and cursor are as many as the rows. -/
theorem length_blockLines (h : e.WellFormed) :
    e.blockLines.length = e.blockRows.2 + 1 - e.blockRows.1 := by
  have bound := (blockRows_bound h).2
  rw [Document.size] at bound
  refine List.length_take_of_le ?_
  rw [List.length_drop, lines]
  omega

/-- The lines between mark and cursor are those of their rows. -/
theorem getElem?_blockLines (h : e.WellFormed) {row : Nat} (first : e.blockRows.1 ≤ row)
    (last : row ≤ e.blockRows.2) :
    e.blockLines[row - e.blockRows.1]? = some (e.document.line row) := by
  have inside : row < e.document.size := Nat.lt_of_le_of_lt last (blockRows_bound h).2
  rw [blockLines, List.getElem?_take_of_lt (by omega), List.getElem?_drop,
    Nat.add_sub_cancel' first]
  exact Document.getElem?_lines inside

/-- The lines between mark and cursor and those around them are all lines. -/
theorem take_append_blockLines (h : e.WellFormed) :
    e.lines.take e.blockRows.1 ++ e.blockLines ++ e.lines.drop (e.blockRows.2 + 1) = e.lines :=
  Document.take_append_between e.lines (blockRows_bound h).1

/-- Toggling a flag toggles the lines between mark and cursor. -/
theorem lines_toggleKeyword (h : e.WellFormed) (f : Flag) :
    (e.toggleKeyword f).lines =
      e.lines.take e.blockRows.1 ++ (toggleLines f none e.blockLines).2 ++
        e.lines.drop (e.blockRows.2 + 1) := by
  have order := (blockRows_bound h).1
  have between := take_append_blockLines h
  have length := length_toggleLines f none e.blockLines
  rw [length_blockLines h] at length
  unfold toggleKeyword
  split
  next first last rows =>
  have here : (e.lines.drop first).take (last + 1 - first) = e.blockLines := by
    rw [blockLines, rows]
  rw [here]
  rw [rows] at order between length ⊢
  split
  · next undecided =>
    rw [toggleLines_of_none (congrArg Prod.fst undecided)]
    exact between.symm
  · next decided =>
    rw [decided] at length ⊢
    refine lines_edit e (List.append_ne_nil_of_left_ne_nil ?_ _) _
    refine List.append_ne_nil_of_right_ne_nil _ (List.ne_nil_of_length_pos ?_)
    dsimp only at order length
    omega

/-- The command toggles them wherever the cursor was on its line. -/
theorem lines_apply_toggleKeyword (h : e.WellFormed) (f : Flag) :
    (e.apply (.toggleKeyword f)).1.lines =
      e.lines.take e.blockRows.1 ++ (toggleLines f none e.blockLines).2 ++
        e.lines.drop (e.blockRows.2 + 1) := by
  have prepared : e.prepare (.toggleKeyword f) =
      { e with col := e.cursor.2, killing := false } := by
    rw [prepare_eq]
    rfl
  have toggled := lines_toggleKeyword (e := { e with col := e.cursor.2, killing := false })
    ⟨h.row_lt, h.mark_lt⟩ f
  rw [(text_apply rfl).2.2, prepared]
  exact toggled

/-- What toggling a flag makes of a row. -/
theorem line_apply_toggleKeyword (h : e.WellFormed) {d : Nat} {rule : Rule}
    (decides : e.Decides d rule) (f : Flag) (row : Nat) :
    let add := !rule.flags.contains f
    (e.apply (.toggleKeyword f)).1.document.line row =
      if d ≤ row ∧ row ≤ e.blockRows.2 then
        if row = d then (rule.setFlag f add).render
        else toggledLine f add (e.document.line row)
      else e.document.line row := by
  intro add
  obtain ⟨order, bound⟩ := blockRows_bound h
  have first_le := decides.first_le
  have here := getElem?_blockLines h decides.first_le decides.le_last
  have silent : ∀ i < d - e.blockRows.1, ∀ l ∈ e.blockLines[i]?, Rule.parse l true = none := by
    intro i above l hl
    have first : e.blockRows.1 ≤ e.blockRows.1 + i := Nat.le_add_right _ _
    have last : e.blockRows.1 + i ≤ e.blockRows.2 := by
      have := decides.le_last
      omega
    have line := getElem?_blockLines h first last
    rw [Nat.add_sub_cancel_left] at line
    obtain rfl := Option.some.inj (line.symm.trans hl)
    exact decides.silent _ first (by omega)
  obtain ⟨decided, toggled⟩ := toggleLines_of_first (f := f) here decides.read silent
  have length := (length_toggleLines f none e.blockLines).trans (length_blockLines h)
  have spliced := getElem?_splice order bound length row
  rw [Document.line, ← Editor.lines, lines_apply_toggleKeyword h, List.getD_eq_getElem?_getD,
    Editor.lines, spliced, toggled]
  by_cases inside : e.blockRows.1 ≤ row ∧ row ≤ e.blockRows.2
  · have line := getElem?_blockLines h inside.1 inside.2
    rw [if_pos inside, line]
    rcases Nat.lt_trichotomy row d with above | rfl | below
    · rw [if_pos (by omega), if_neg (by omega)]
      rfl
    · rw [if_neg (by omega), if_pos rfl, if_pos (by omega), if_pos rfl]
      rfl
    · rw [if_neg (by omega), if_neg (by omega), if_pos (by omega), if_neg (by omega)]
      rfl
  · rw [if_neg inside, if_neg (by omega)]
    exact (List.getD_eq_getElem?_getD ..).symm

/-- A row that takes part is written with the flag put in or taken out. -/
theorem line_apply_toggleKeyword_of_takes (h : e.WellFormed) {d row : Nat} {rule r : Rule}
    (decides : e.Decides d rule) (takes : e.Takes d row r) (f : Flag) :
    (e.apply (.toggleKeyword f)).1.document.line row =
      (r.setFlag f (decide (f ∉ rule.flags))).render := by
  have add : decide (f ∉ rule.flags) = !rule.flags.contains f := by
    rw [decide_not]
    exact congrArg (!·) Bool.decide_eq_true
  have read := takes.read
  rw [line_apply_toggleKeyword h decides, if_pos ⟨takes.le, takes.le_last⟩, add]
  by_cases here : row = d
  · rw [decide_eq_true here, here, decides.read, Option.some.injEq] at read
    rw [if_pos here, read]
  · rw [decide_eq_false here] at read
    rw [if_neg here, toggledLine, read]

/-- Any other row stays as it is. -/
theorem line_apply_toggleKeyword_of_not_takes (h : e.WellFormed) {d row : Nat} {rule : Rule}
    (decides : e.Decides d rule) (spared : ∀ r, ¬ e.Takes d row r) (f : Flag) :
    (e.apply (.toggleKeyword f)).1.document.line row = e.document.line row := by
  rw [line_apply_toggleKeyword h decides]
  split
  · next inside =>
    split
    · next here =>
      subst here
      have read : Rule.parse (e.document.line row) (decide (row = row)) = some rule := by
        rw [decide_eq_true rfl]
        exact decides.read
      exact absurd ⟨inside.1, inside.2, read⟩ (spared rule)
    · next other =>
      rw [toggledLine]
      cases read : Rule.parse (e.document.line row) false with
      | none => rfl
      | some r =>
        rw [← decide_eq_false other] at read
        exact absurd ⟨inside.1, inside.2, read⟩ (spared r)
  · rfl

/-- Without a row that decides, toggling a flag changes no line. -/
theorem lines_apply_toggleKeyword_of_silent (h : e.WellFormed) (f : Flag)
    (silent : ∀ row, e.blockRows.1 ≤ row → row ≤ e.blockRows.2 →
      Rule.parse (e.document.line row) true = none) :
    (e.apply (.toggleKeyword f)).1.lines = e.lines := by
  have undecided : toggleLines f none e.blockLines = (none, e.blockLines) := by
    refine toggleLines_of_silent fun line hl => ?_
    obtain ⟨i, hi⟩ := List.mem_iff_getElem?.mp hl
    have within := (List.getElem?_eq_some_iff.mp hi).1
    rw [length_blockLines h] at within
    have first : e.blockRows.1 ≤ e.blockRows.1 + i := Nat.le_add_right _ _
    have here := getElem?_blockLines h first (by omega)
    rw [Nat.add_sub_cancel_left] at here
    obtain rfl := Option.some.inj (here.symm.trans hi)
    exact silent _ first (by omega)
  rw [lines_apply_toggleKeyword h, undecided, take_append_blockLines h]

/-- Toggling a flag changes nothing else: the rows that take part are read back with the flag put in
or taken out, as the first of them decides, and without the other members of the flag's group. All
other rows keep their text. So where the flag is taken out, all other flags stay just in the rules
that have none of its group. -/
theorem toggleKeyword_read_back {e : Editor} (reached : e.Reachable) (f : Flag)
    (names : ∀ row, e.blockRows.1 ≤ row → row ≤ e.blockRows.2 →
      ∀ r, Rule.parse (e.document.line row) true = some r → ¬ Keyword.realmWord <+: r.name) :
    let e' := (e.apply (.toggleKeyword f)).1
    e'.document.size = e.document.size ∧
    ((∀ row, e.blockRows.1 ≤ row → row ≤ e.blockRows.2 →
      Rule.parse (e.document.line row) true = none) → e'.lines = e.lines) ∧
    ∀ d rule, e.Decides d rule →
      (∀ row r, e.Takes d row r →
        ∃ r', Rule.parse (e'.document.line row) false = some r' ∧
          Rule.Toggled f (decide (f ∉ rule.flags)) r r' ∧
          ((∀ g, g ≠ f → (g ∈ r'.flags ↔ g ∈ r.flags)) ↔
            ∀ g, g ≠ f → g ∈ r.flags → f.excludes g = false)) ∧
      ∀ row, (∀ r, ¬ e.Takes d row r) → e'.document.line row = e.document.line row := by
  intro e'
  have h := reached.wellFormed
  refine ⟨?_, lines_apply_toggleKeyword_of_silent h f, fun d rule decides => ⟨?_, ?_⟩⟩
  · have all := congrArg List.length (take_append_blockLines h)
    change e'.lines.length = e.lines.length
    rw [lines_apply_toggleKeyword h]
    simp only [List.length_append, length_toggleLines] at all ⊢
    exact all
  · intro row r takes
    have line := line_apply_toggleKeyword_of_takes h decides takes f
    have name := names row (Nat.le_trans decides.first_le takes.le) takes.le_last r
      (Rule.parse_true takes.read)
    obtain ⟨r', read, toggled⟩ := Rule.parse_render_setFlag (Rule.writable_of_parse takes.read)
      name f (decide (f ∉ rule.flags)) false
    exact ⟨r', line ▸ read, toggled, toggled.keeps_iff⟩
  · intro row spared
    exact line_apply_toggleKeyword_of_not_takes h decides spared f

/-- Three rows, the mark in the first and the cursor in the last. -/
def threeRows (first second third : Text) : Editor :=
  (start [first, second, third] {} {}).applyAll [.toggleMark, .move .down, .move .down]

/-- The editor over three rows can be reached. -/
theorem reachable_threeRows (first second third : Text) :
    (threeRows first second third).Reachable :=
  (((Reachable.start _ _ _).apply _).apply _).apply _

/-- No name in three rows begins as the rest of a realm's keyword does, if that is so for each of
them. -/
theorem names_of_all {e : Editor} {last : Nat}
    (all : ∀ row ≤ last, (Rule.parse (e.document.line row) true).all
      (fun r => !decide (Keyword.realmWord <+: r.name)) = true) :
    ∀ row ≤ last, ∀ r, Rule.parse (e.document.line row) true = some r →
      ¬ Keyword.realmWord <+: r.name := by
  intro row inside r read
  have name := all row inside
  rw [read] at name
  simpa using name

/-- The rings decide that `good` is put in, the note stays, and the boots are good ones now and no
longer average. -/
theorem toggleKeyword_read_back_averageBoots :
    let e := threeRows "rings" "# note" "average boots"
    let e' := (e.apply (.toggleKeyword .good)).1
    e.Reachable ∧ e.Decides 0 { flags := .ofList [.rings] } ∧
      e.Takes 0 2 { flags := .ofList [.average, .boots] } ∧
      (∃ r', Rule.parse (e'.document.line 2) false = some r' ∧
        Rule.Toggled .good true { flags := .ofList [.average, .boots] } r') ∧
      e'.document.line 1 = "# note".toList ∧ e'.document.line 2 = "good boots".toList := by
  intro e e'
  have reached : e.Reachable := reachable_threeRows _ _ _
  have rows : e.blockRows = (0, 2) := by decide +kernel
  have decides : e.Decides 0 { flags := .ofList [.rings] } :=
    ⟨by rw [rows], by rw [rows]; decide, by decide +kernel, fun _ _ => nofun⟩
  have takes : e.Takes 0 2 { flags := .ofList [.average, .boots] } :=
    ⟨by decide, by rw [rows], by decide +kernel⟩
  have names : ∀ row ≤ 2, ∀ r, Rule.parse (e.document.line row) true = some r →
      ¬ Keyword.realmWord <+: r.name := names_of_all (by decide +kernel)
  have note : ∀ r, ¬ e.Takes 0 1 r := by
    intro r takes
    have silent : Rule.parse (e.document.line 1) (decide (1 = 0)) = none := by decide +kernel
    exact Option.some_ne_none r (takes.read.symm.trans silent)
  have all := toggleKeyword_read_back reached .good
    (fun row _ last => names row (by rw [rows] at last; exact last))
  obtain ⟨toggled, kept⟩ := all.2.2 0 _ decides
  obtain ⟨r', read, added, -⟩ := toggled 2 _ takes
  exact ⟨reached, decides, takes, ⟨r', read, added⟩, (kept 1 note).trans (by decide +kernel),
    by decide +kernel⟩

/-- Taking `good` out of the rule for rings takes `average` out of the rule for boots, which was
not good. -/
theorem toggleKeyword_averageBoots_ne :
    let e := threeRows "good rings" "# note" "average boots"
    let e' := (e.apply (.toggleKeyword .good)).1
    e.Reachable ∧ e.Decides 0 { flags := .ofList [.good, .rings] } ∧
      e.Takes 0 2 { flags := .ofList [.average, .boots] } ∧
      (∀ row ≤ 2, ∀ r, Rule.parse (e.document.line row) true = some r →
        ¬ Keyword.realmWord <+: r.name) ∧
      Rule.parse (e'.document.line 2) false = some { flags := .ofList [.boots] } ∧
      Rule.parse (e'.document.line 2) false ≠ some { flags := .ofList [.average, .boots] } := by
  intro e e'
  have rows : e.blockRows = (0, 2) := by decide +kernel
  have decides : e.Decides 0 { flags := .ofList [.good, .rings] } :=
    ⟨by rw [rows], by rw [rows]; decide, by decide +kernel, fun _ _ => nofun⟩
  have takes : e.Takes 0 2 { flags := .ofList [.average, .boots] } :=
    ⟨by decide, by rw [rows], by decide +kernel⟩
  exact ⟨reachable_threeRows _ _ _, decides, takes, names_of_all (by decide +kernel),
    by decide +kernel, by decide +kernel⟩

end Editor

end LootRules
