import LootRules.Proofs.Text.LowerCase

/-!
# The lines of a file

Behind a line feed a new line begins, whatever has been read before: the lines of a text that ends
in a line feed and of any text behind it are read apart from each other. So lines are read back from
a file in which each has a line feed behind it, if none holds a line feed itself; only a carriage
return at the end of a line is lost. Hence the lines that come back are exactly those without
either.

Lines that hold neither line feeds nor carriage returns are called unbroken. They can be put behind
what is there already, and lowering does not break a line.
-/

namespace LootRules.Text

/-- A text that comes to an end with a line feed, if there is anything in it. -/
def Ended (s : Text) : Prop := ∀ c ∈ s.getLast?, c = '\n'

/-- The rest of an ended text is ended. -/
theorem Ended.tail {c : Char} {s : Text} (h : Ended (c :: s)) : Ended s := by
  cases s with
  | nil => exact nofun
  | cons d s => exact h

/-- Behind a character that is no line feed an ended text goes on. -/
theorem Ended.tail_ne_nil {c : Char} {s : Text} (h : Ended (c :: s)) (feed : c ≠ '\n') :
    s ≠ [] := by
  rintro rfl
  exact feed (h c rfl)

/-- A character that begins no line break belongs to the first line. -/
theorem lines_cons {c : Char} {s : Text} (feed : c ≠ '\n') (pair : c = '\r' → s.head? ≠ some '\n') :
    lines (c :: s) = (c :: (lines s).headD []) :: (lines s).tail := by
  have apart : ∀ t, c = '\r' → s = '\n' :: t → False := by
    rintro t ret rfl
    exact pair ret rfl
  rw [lines.eq_4 c s feed apart]
  cases lines s <;> rfl

/-- A text with something in it has a line. -/
theorem lines_ne_nil {s : Text} (h : s ≠ []) : lines s ≠ [] := by
  fun_cases lines s <;> simp_all

/-- What stands behind a line feed is read apart from what stands before. -/
theorem lines_append {s : Text} (h : Ended s) (t : Text) :
    lines (s ++ t) = lines s ++ lines t := by
  induction s with
  | nil => rfl
  | cons c s ih =>
    have rest := ih h.tail
    by_cases feed : c = '\n'
    · subst feed
      exact congrArg ([] :: ·) rest
    · have more := h.tail_ne_nil feed
      have head : (s ++ t).head? = s.head? := by
        obtain ⟨d, s, rfl⟩ := List.exists_cons_of_ne_nil more
        rfl
      by_cases pair : c = '\r' → s.head? ≠ some '\n'
      · obtain ⟨line, below, cons⟩ := List.exists_cons_of_ne_nil (lines_ne_nil more)
        rw [List.cons_append, lines_cons feed (head ▸ pair), lines_cons feed pair, rest, cons]
        rfl
      · -- A carriage return goes with the line feed behind it, which is read without it as well.
        rw [Classical.not_imp, Decidable.not_not] at pair
        obtain ⟨rfl, next⟩ := pair
        obtain ⟨s, rfl⟩ := List.head?_eq_some_iff.mp next
        exact rest

/-- A text without line breaks: neither line feeds nor carriage returns. -/
structure Unbroken (s : Text) : Prop where
  feed : '\n' ∉ s
  ret : '\r' ∉ s

/-- A line without the carriage return at its end, if there is one. -/
def dropReturn (l : Text) : Text := if l.getLast? = some '\r' then l.dropLast else l

/-- A line keeps its end unless that is a carriage return. -/
theorem dropReturn_eq_self_iff {l : Text} : dropReturn l = l ↔ l.getLast? ≠ some '\r' := by
  rw [dropReturn]
  split
  · next ret =>
    refine iff_of_false (fun same => ?_) fun other => other ret
    have nonempty : l ≠ [] := by
      rintro rfl
      contradiction
    have shorter := congrArg List.length same
    rw [List.length_dropLast] at shorter
    have := List.length_pos_iff.mpr nonempty
    omega
  · next other => exact iff_of_true rfl other

/-- What stands before the end of a line stays. -/
theorem dropReturn_cons {c : Char} {l : Text} (h : l ≠ [] ∨ c ≠ '\r') :
    dropReturn (c :: l) = c :: dropReturn l := by
  cases l with
  | nil =>
    have other : c ≠ '\r' := h.resolve_left fun nonempty => nonempty rfl
    exact dropReturn_eq_self_iff.mpr fun last => other (Option.some.inj last)
  | cons d l =>
    rw [dropReturn, dropReturn, List.getLast?_cons_cons, List.dropLast_cons_cons]
    split <;> rfl

/-- A line is read back from a line feed behind it, but for a carriage return at its end. -/
theorem lines_line {l : Text} (h : '\n' ∉ l) : lines (l ++ ['\n']) = [dropReturn l] := by
  induction l with
  | nil => rfl
  | cons c l ih =>
    rw [List.mem_cons, not_or] at h
    obtain ⟨feed, below⟩ := h
    by_cases pair : l = [] ∧ c = '\r'
    · obtain ⟨rfl, rfl⟩ := pair
      rfl
    · have apart : c = '\r' → (l ++ ['\n']).head? ≠ some '\n' := by
        rintro rfl next
        obtain ⟨d, l, rfl⟩ := List.exists_cons_of_ne_nil fun empty => pair ⟨empty, rfl⟩
        obtain rfl := Option.some.inj next
        exact below List.mem_cons_self
      rw [List.cons_append, lines_cons (Ne.symm feed) apart, ih below,
        dropReturn_cons (Decidable.not_and_iff_not_or_not.mp pair)]
      rfl

/-- An unbroken text is one line, if there is anything in it. -/
theorem lines_of_unbroken {l : Text} (h : Unbroken l) (nonempty : l ≠ []) : lines l = [l] := by
  induction l with
  | nil => contradiction
  | cons c l ih =>
    obtain ⟨feed, ret⟩ := h
    rw [List.mem_cons, not_or] at feed ret
    rw [lines_cons (Ne.symm feed.1) fun same => absurd same.symm ret.1]
    cases l with
    | nil => rfl
    | cons d l =>
      rw [ih ⟨feed.2, ret.2⟩ (List.cons_ne_nil d l)]
      rfl

/-- Lines without line feeds are read back from a file, but for carriage returns at their ends. -/
theorem lines_unlines_eq_map {ls : List Text} (h : ∀ l ∈ ls, '\n' ∉ l) :
    lines (unlines ls) = ls.map dropReturn := by
  induction ls with
  | nil => rfl
  | cons l ls ih =>
    obtain ⟨first, rest⟩ := List.forall_mem_cons.mp h
    have ended : Ended (l ++ ['\n']) := by
      intro c last
      rw [List.getLast?_append] at last
      exact (Option.some.inj last).symm
    have step : unlines (l :: ls) = (l ++ ['\n']) ++ unlines ls := by
      rw [unlines, List.append_assoc]
      rfl
    rw [step, lines_append ended, lines_line first, ih rest]
    rfl

/-- No line of a text holds a line feed. -/
theorem not_mem_of_mem_lines {s l : Text} (h : l ∈ lines s) : '\n' ∉ l := by
  induction s using lines.induct generalizing l with
  | case1 => contradiction
  | case2 s ih | case3 s ih =>
    rcases List.mem_cons.mp h with rfl | mem
    · exact List.not_mem_nil
    · exact ih mem
  | case4 c s feed pair none ih =>
    rw [lines.eq_4 c s feed pair, none] at h
    obtain rfl := List.mem_singleton.mp h
    exact fun mem => feed (List.mem_singleton.mp mem).symm
  | case5 c s feed pair first rest some ih =>
    rw [lines.eq_4 c s feed pair, some] at h
    rw [some] at ih
    rcases List.mem_cons.mp h with rfl | mem
    · rw [List.mem_cons, not_or]
      exact ⟨fun same => feed same.symm, ih List.mem_cons_self⟩
    · exact ih (List.mem_cons_of_mem first mem)

/-- Lines are read back from a file just if none holds a line feed or ends in a carriage return. -/
theorem lines_unlines_iff {ls : List Text} :
    lines (unlines ls) = ls ↔ ∀ l ∈ ls, '\n' ∉ l ∧ l.getLast? ≠ some '\r' := by
  have fixed : ls.map dropReturn = ls ↔ ∀ l ∈ ls, l.getLast? ≠ some '\r' := by
    have each : ls.map dropReturn = ls.map id ↔ ∀ l ∈ ls, dropReturn l = l := List.map_inj_left
    rw [List.map_id] at each
    exact each.trans (forall₂_congr fun _ _ => dropReturn_eq_self_iff)
  constructor
  · intro read l mem
    have feed : ∀ l ∈ ls, '\n' ∉ l := fun l mem => not_mem_of_mem_lines (read.symm ▸ mem)
    rw [lines_unlines_eq_map feed] at read
    exact ⟨feed l mem, fixed.mp read l mem⟩
  · intro whole
    rw [lines_unlines_eq_map fun l mem => (whole l mem).1]
    exact fixed.mpr fun l mem => (whole l mem).2

/-- Unbroken lines are read back from a file. -/
theorem lines_unlines {ls : List Text} (h : ∀ l ∈ ls, Unbroken l) : lines (unlines ls) = ls :=
  lines_unlines_iff.mpr fun l mem =>
    ⟨(h l mem).feed, fun last => (h l mem).ret (List.mem_of_getLast? last)⟩

/-- Unbroken lines behind an ended text are read as more lines. -/
theorem lines_append_unlines {s : Text} (ended : Ended s) {ls : List Text}
    (h : ∀ l ∈ ls, Unbroken l) : lines (s ++ unlines ls) = lines s ++ ls := by
  rw [lines_append ended, lines_unlines h]

namespace Unbroken

instance (s : Text) : Decidable (Unbroken s) :=
  decidable_of_iff ('\n' ∉ s ∧ '\r' ∉ s) ⟨fun h => ⟨h.1, h.2⟩, fun h => ⟨h.feed, h.ret⟩⟩

/-- The characters of an unbroken text make unbroken texts. -/
theorem of_subset {s t : Text} (h : Unbroken t) (sub : s ⊆ t) : Unbroken s :=
  ⟨fun mem => h.feed (sub mem), fun mem => h.ret (sub mem)⟩

/-- An unbroken text behind another makes one unbroken text. -/
theorem append {s t : Text} (hs : Unbroken s) (ht : Unbroken t) : Unbroken (s ++ t) where
  feed mem := (List.mem_append.mp mem).elim hs.feed ht.feed
  ret mem := (List.mem_append.mp mem).elim hs.ret ht.ret

/-- Any other character may stand before an unbroken text. -/
theorem cons {c : Char} {s : Text} (feed : c ≠ '\n') (ret : c ≠ '\r') (h : Unbroken s) :
    Unbroken (c :: s) where
  feed mem := (List.mem_cons.mp mem).elim (fun same => feed same.symm) h.feed
  ret mem := (List.mem_cons.mp mem).elim (fun same => ret same.symm) h.ret

/-- Unbroken words make an unbroken text. -/
theorem unwords {ws : List Text} (h : ∀ w ∈ ws, Unbroken w) : Unbroken (unwords ws) := by
  induction ws with
  | nil => decide
  | cons w ws ih =>
    obtain ⟨first, rest⟩ := List.forall_mem_cons.mp h
    cases ws with
    | nil => exact first
    | cons v ws => exact first.append ((ih rest).cons (by decide) (by decide))

/-- A number is unbroken. -/
theorem decimal (n : Nat) : Unbroken (decimal n) where
  feed mem := absurd (isDigit_of_mem_decimal mem) (by decide)
  ret mem := absurd (isDigit_of_mem_decimal mem) (by decide)

/-- A number with zeros in front is unbroken. -/
theorem zeroPadded (width n : Nat) : Unbroken (zeroPadded width n) := by
  have zero : Unbroken ['0'] := by decide
  have zeros (k : Nat) : Unbroken (List.replicate k '0') :=
    zero.of_subset fun c mem => List.eq_of_mem_replicate mem ▸ List.mem_cons_self
  exact (zeros _).append (decimal n)

/-- Lowering the letters A to Z breaks no text. -/
theorem asciiLower {s : Text} (h : Unbroken s) : Unbroken (asciiLower s) where
  feed := not_mem_asciiLower_of_not_mem (by decide) h.feed
  ret := not_mem_asciiLower_of_not_mem (by decide) h.ret

/-- Lowering breaks no text. -/
theorem lower {s : Text} (h : Unbroken s) : Unbroken (lower s) := by
  have kept {c : Char} (lowered : ¬ Lowered c) (absent : c ∉ s) : c ∉ Text.lower s :=
    fun mem => (mem_or_lowered_of_mem_lower mem).elim absent lowered
  exact ⟨kept (by decide) h.feed, kept (by decide) h.ret⟩

end Unbroken

end LootRules.Text
