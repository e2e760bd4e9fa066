import LootRules.Proofs.Editor.FlatText
import LootRules.Proofs.Editor.Place

/-!
# Cutting and pasting back

Cutting leaves the cursor where the region was, so that pasting at once puts the region back. A span
goes between the two parts of its line that are left. Whole rows go, each with a line break, before
the line that came up to their place. Rows that reach to the end of the document leave an empty line
in their place, since a document is never without a line, and that line stays behind them when they
are pasted.

Cutting takes the text that copying would take, in every editor.
-/

namespace LootRules.Editor

/-- The region that a command finds is one of whole rows down to the last. -/
def TakesLastRow (e : Editor) : Prop := ∃ first, e.seen.region = .rows first e.document.lastRow

/-- Pasting would make given lines of the document. -/
def PastesTo (e : Editor) (lines : List Text) : Prop :=
  ∃ above before behind below, e.StandsAt above before behind below ∧
    above ++ prependFirst before (pasted e.yank behind below) = lines

/-- What pasting would make after a command by itself, it would make after the command. -/
theorem PastesTo.apply {e : Editor} {command : Command} {lines : List Text}
    (h : ((e.prepare command).run command).PastesTo lines) :
    (e.apply command).1.PastesTo lines := by
  obtain ⟨above, before, behind, below, stands, same⟩ := h
  refine ⟨above, before, behind, below, standsAt_apply stands, ?_⟩
  rw [apply_eq]
  exact same

/-- Pasting that is not refused has room. -/
theorem pasteFits_of_not_refuses {e : Editor} (accepted : ¬ e.Refuses .paste)
    (filled : e.yank.segments ≠ []) : e.PasteFits := by
  refine Classical.byContradiction fun full => accepted ?_
  have refused :
      (e.takeStatus.2.prepare .paste).paste = (e.takeStatus.2.prepare .paste).refuse := by
    rw [prepare_eq]
    exact paste_of_full filled full
  rw [Refuses, apply_eq]
  exact congrArg status refused

/-- Pasting that is not refused makes what it would make. -/
theorem PastesTo.lines_apply {e : Editor} {lines : List Text} (h : e.PastesTo lines)
    (accepted : ¬ e.Refuses .paste) : (e.apply .paste).1.lines = lines := by
  obtain ⟨above, before, behind, below, stands, same⟩ := h
  rw [stands.lines_apply_paste (pasteFits_of_not_refuses accepted), same]

variable {e : Editor} {first last : Nat}

/-- A region within a row is one of the cursor's row, with its ends in order and within the line. -/
theorem bound_of_region_span (col : e.col ≤ e.width) {row : Nat}
    (region : e.region = .span row first last) : row = e.row ∧ first ≤ last ∧ last ≤ e.width := by
  obtain ⟨other, rfl, rfl, rfl⟩ := exists_of_region_span region
  exact ⟨rfl, by omega, Nat.min_le_right _ _⟩

/-- What remains is made of characters that stand alone if the lines are. -/
theorem alone_remaining (alone : ∀ line ∈ e.lines, ∀ c ∈ line, Text.Alone c) :
    ∀ line ∈ e.remaining last, ∀ c ∈ line, Text.Alone c := by
  rw [remaining]
  split
  · exact List.forall_mem_singleton.mpr (List.forall_mem_nil _)
  · exact fun line mem => alone line (List.mem_of_mem_drop mem)

/-- The lines down to a row and what remains are all lines, and an empty one behind the last row. -/
theorem take_append_remaining (bound : last < e.document.size) :
    e.lines.take (last + 1) ++ e.remaining last =
      e.lines ++ if last = e.document.lastRow then [[]] else [] := by
  rw [remaining]
  split
  · next atEnd =>
    rw [List.take_of_length_le]
    change e.document.size ≤ last + 1
    rw [atEnd, Document.lastRow]
    omega
  · rw [List.take_append_drop, List.append_nil]

/-- Rows that were cut are pasted before what remains. -/
theorem pastesTo_cut_rows (h : e.WellFormed)
    (alone : ∀ line ∈ e.lines, ∀ c ∈ line, Text.Alone c) (region : e.region = .rows first last) :
    e.cut.PastesTo (e.lines.take (last + 1) ++ e.remaining last) := by
  obtain ⟨before, after, bound⟩ := bound_of_region_rows h region
  have order : first ≤ last := Nat.le_trans before after
  obtain ⟨next, rest, remains⟩ := List.exists_cons_of_ne_nil (remaining_ne_nil bound)
  obtain ⟨here, below⟩ := List.forall_mem_cons.mp (remains ▸ alone_remaining alone)
  have cut : e.cut = { e.copy with row := first, col := 0 }.edit
      (e.lines.take first ++ next :: rest) .everything := by
    rw [Editor.cut, region, ← remains]
    rfl
  have stands : e.cut.StandsAt (e.lines.take first) [] next rest := by
    rw [cut]
    refine ⟨lines_edit _ (by simp) _, ?_, rfl, here, below⟩
    have inside : first ≤ e.lines.length := Nat.le_of_lt (Nat.lt_of_le_of_lt order bound)
    exact (List.length_take_of_le inside).symm
  have yank : e.cut.yank = .ofLines ((e.lines.drop first).take (last + 1 - first)) := by
    rw [cut]
    change e.regionYank e.region = _
    rw [region]
    rfl
  have block : e.lines.take (last + 1) =
      e.lines.take first ++ (e.lines.drop first).take (last + 1 - first) := by
    rw [← List.take_add]
    congr 1
    omega
  refine ⟨_, _, _, _, stands, ?_⟩
  rw [yank, remains, pasted, pieces, Yank.ofLines, if_pos rfl, Yank.extendLast_concat,
    prependFirst_nil (by simp), block]
  simp only [List.append_assoc, List.singleton_append, List.nil_append]

/-- A span that was cut is pasted between the parts of its line that are left. -/
theorem pastesTo_cut_span (h : e.WellFormed) (col : e.col ≤ e.width)
    (alone : ∀ line ∈ e.lines, ∀ c ∈ line, Text.Alone c) {row : Nat}
    (region : e.region = .span row first last) : e.cut.PastesTo e.lines := by
  obtain ⟨rfl, order, inside⟩ := bound_of_region_span col region
  have here := alone e.line (line_mem_lines h.row_lt)
  have wide : e.width = e.line.length := Text.columns_of_alone here
  have cut : e.cut = { e.copy with col := first }.edit
      (e.lines.take e.row ++ (e.line.take first ++ e.line.drop last) :: e.lines.drop (e.row + 1))
      .everything := by
    rw [Editor.cut, region, ← set_eq h.row_lt, ← Text.beforeColumn_of_alone here,
      ← Text.fromColumn_of_alone here]
    rfl
  have stands : e.cut.StandsAt (e.lines.take e.row) (e.line.take first) (e.line.drop last)
      (e.lines.drop (e.row + 1)) := by
    rw [cut]
    refine ⟨lines_edit _ (by simp) _, ?_, ?_, ?_, ?_⟩
    · exact (List.length_take_of_le (Nat.le_of_lt h.row_lt)).symm
    · exact (List.length_take_of_le (Nat.le_trans order (wide ▸ inside))).symm
    · exact List.forall_mem_append.mpr ⟨fun c mem => here c (List.mem_of_mem_take mem),
        fun c mem => here c (List.mem_of_mem_drop mem)⟩
    · exact fun line mem => alone line (List.mem_of_mem_drop mem)
  have yank : e.cut.yank = .ofSpan ((e.line.take last).drop first) := by
    rw [cut, ← Text.betweenColumns_of_alone here]
    change e.regionYank e.region = _
    rw [region]
    rfl
  have whole :
      e.line.take first ++ ((e.line.take last).drop first ++ e.line.drop last) = e.line := by
    have start : e.line.take first = (e.line.take last).take first := by
      rw [List.take_take, Nat.min_eq_left order]
    rw [← List.append_assoc, start, List.take_append_drop, List.take_append_drop]
  refine ⟨_, _, _, _, stands, ?_⟩
  rw [yank]
  change e.lines.take e.row ++ (e.line.take first ++ ((e.line.take last).drop first ++
    e.line.drop last)) :: e.lines.drop (e.row + 1) = e.lines
  rw [whole]
  exact (Text.eq_take_append_drop h.row_lt).symm

/-- A region that was cut is pasted back, and behind the last row with an empty line. -/
theorem pastesTo_cut (h : e.WellFormed) (col : e.col ≤ e.width)
    (alone : ∀ line ∈ e.lines, ∀ c ∈ line, Text.Alone c) :
    ((∃ first, e.region = .rows first e.document.lastRow) → e.cut.PastesTo (e.lines ++ [[]])) ∧
      ((¬ ∃ first, e.region = .rows first e.document.lastRow) → e.cut.PastesTo e.lines) := by
  cases region : e.region with
  | rows first last =>
    have bound := (bound_of_region_rows h region).2.2
    have pastes := pastesTo_cut_rows h alone region
    rw [take_append_remaining bound] at pastes
    refine ⟨fun ⟨_, same⟩ => ?_, fun other => ?_⟩
    · rw [if_pos (Region.rows.inj same).2] at pastes
      exact pastes
    · rw [if_neg fun same => other ⟨first, congrArg (Region.rows first) same⟩,
        List.append_nil] at pastes
      exact pastes
  | span row first last => exact ⟨nofun, fun _ => pastesTo_cut_span h col alone region⟩

/-- Cutting takes the text that copying takes. -/
theorem yank_cut (e : Editor) : e.cut.yank = e.copy.yank := by
  rw [cut]
  split <;> rfl

/-- After cutting the yank buffer holds what it would hold after copying, and pasting at once gives
the lines back as they were. Only if whole rows down to the last were cut, there is an empty line
behind them then. -/
theorem lines_cut_paste {e : Editor} (reached : e.Reachable)
    (printable : ∀ line ∈ e.lines, ∀ c ∈ line, Text.Printable c)
    (accepted : ¬ (e.apply .cut).1.Refuses .paste) :
    let e' := (e.apply .cut).1
    e'.yank = (e.apply .copy).1.yank ∧
      (e.TakesLastRow → (e'.apply .paste).1.lines = e.lines ++ [[]]) ∧
      (¬ e.TakesLastRow → (e'.apply .paste).1.lines = e.lines) := by
  have alone : ∀ line ∈ e.lines, ∀ c ∈ line, Text.Alone c :=
    fun line mem c hc => Text.alone_of_printable (printable line mem c hc)
  have prepared : e.prepare .copy = e.prepare .cut := by
    rw [prepare_eq, prepare_eq]
    rfl
  have region : (e.prepare .cut).region = e.seen.region := by
    rw [prepare_eq]
    rfl
  have document : (e.prepare .cut).document = e.document := document_prepare e .cut
  have lines : (e.prepare .cut).lines = e.lines := congrArg Document.lines document
  have col : (e.prepare .cut).col ≤ (e.prepare .cut).width := by
    rw [prepare_eq]
    exact Nat.min_le_right _ _
  have pastes := pastesTo_cut (wellFormed_prepare reached.wellFormed .cut) col (lines ▸ alone)
  rw [region, document, lines] at pastes
  refine ⟨?_, fun last => ?_, fun other => ?_⟩
  · rw [apply_eq, apply_eq, prepared]
    exact yank_cut _
  · have pasting : ((e.prepare .cut).run .cut).PastesTo (e.lines ++ [[]]) := pastes.1 last
    exact pasting.apply.lines_apply accepted
  · have pasting : ((e.prepare .cut).run .cut).PastesTo e.lines := pastes.2 other
    exact pasting.apply.lines_apply accepted

/-- Two rules, of which the second is selected in part. -/
def partlySelected : Editor :=
  (start ["rings".toList, "amulets".toList] {} {}).applyAll
    [.move .down, .move .right, .toggleMark, .move .right, .move .right, .move .right]

/-- Three characters of the second rule are cut, as they would be copied, and pasted back. -/
theorem lines_cut_paste_partlySelected :
    let e := partlySelected
    let e' := (e.apply .cut).1
    e.Reachable ∧ (∀ line ∈ e.lines, ∀ c ∈ line, Text.Printable c) ∧ ¬ e'.Refuses .paste ∧
      ¬ e.TakesLastRow ∧ e'.lines = ["rings".toList, "aets".toList] ∧
      e'.yank = (e.apply .copy).1.yank ∧ (e'.apply .paste).1.lines = e.lines := by
  have reached : partlySelected.Reachable :=
    .apply _ (.apply _ (.apply _ (.apply _ (.apply _ (.apply _ (.start _ _ _))))))
  have printable : ∀ line ∈ partlySelected.lines, ∀ c ∈ line, Text.Printable c := by
    have all : partlySelected.lines.all fun line => line.all fun c => Text.Printable c := by
      decide +kernel
    simpa only [List.all_eq_true, decide_eq_true_eq] using all
  have accepted : ¬ (partlySelected.apply .cut).1.Refuses .paste := by
    rw [Refuses]
    decide +kernel
  have region : partlySelected.seen.region = .span 1 1 4 := by decide +kernel
  have partly : ¬ partlySelected.TakesLastRow := by
    rintro ⟨first, same⟩
    cases region.symm.trans same
  have restores := lines_cut_paste reached printable accepted
  exact ⟨reached, printable, accepted, partly, by decide +kernel, restores.1,
    restores.2.2 partly⟩

end LootRules.Editor
