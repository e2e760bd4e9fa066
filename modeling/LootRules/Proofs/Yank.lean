import LootRules.Proofs.Editor.Commands

/-!
# What a yank buffer is pasted as

The pieces of a yank buffer are put between two texts, of which the first piece ends the one and the
last piece begins the other. Text or a line break that is added to the buffer comes to the same as
having it behind the pieces: the encoding of a final break, and of a break with nothing before it,
is no matter there.
-/

namespace LootRules

namespace Yank

/-- Text put behind the last of some segments. -/
theorem extendLast_concat (segments : List Text) (last text : Text) :
    extendLast text (segments ++ [last]) = segments ++ [last ++ text] := by
  induction segments with
  | nil => rfl
  | cons first rest ih =>
    obtain ⟨next, more, cons⟩ : ∃ next more, rest ++ [last] = next :: more :=
      List.exists_cons_of_ne_nil (by simp)
    rw [List.cons_append, cons, extendLast, ← cons, ih, List.cons_append]

/-- Text put behind the last segment, and more text behind that. -/
theorem extendLast_extendLast (segments : List Text) (first second : Text) :
    extendLast second (extendLast first segments) = extendLast (first ++ second) segments := by
  rcases List.eq_nil_or_concat segments with empty | ⟨rest, last, rfl⟩
  · rw [empty]
    rfl
  · simp only [List.concat_eq_append, extendLast_concat, List.append_assoc]

/-- No text put behind the last segment. -/
theorem extendLast_nil {segments : List Text} (h : segments ≠ []) :
    extendLast [] segments = segments := by
  rcases List.eq_nil_or_concat segments with empty | ⟨rest, last, rfl⟩
  · exact absurd empty h
  · simp only [List.concat_eq_append, extendLast_concat, List.append_nil]

end Yank

namespace Editor

/-- Text added to a yank buffer is pasted behind what was there. -/
theorem extendLast_pieces_pushText (yank : Yank) (text behind : Text) :
    Yank.extendLast behind (pieces (yank.pushText text)) =
      Yank.extendLast (text ++ behind) (pieces yank) := by
  cases ends : yank.endsWithBreak with
  | true =>
    simp only [pieces, Yank.pushText, ends, if_true, Bool.false_eq_true, if_false,
      List.append_nil, Yank.extendLast_concat, List.nil_append]
  | false =>
    simp only [pieces, Yank.pushText, ends, Bool.false_eq_true, if_false, List.append_nil,
      Yank.extendLast_extendLast]

/-- A line break added to a yank buffer is pasted behind what was there. -/
theorem extendLast_pieces_pushBreak (yank : Yank) (behind : Text) :
    Yank.extendLast behind (pieces yank.pushBreak) =
      Yank.extendLast [] (pieces yank) ++ [behind] := by
  cases ends : yank.endsWithBreak with
  | true =>
    simp only [pieces, Yank.pushBreak, ends, Bool.or_true, if_true, Yank.extendLast_concat,
      List.append_nil, List.nil_append]
  | false =>
    by_cases empty : yank.segments = []
    · simp only [pieces, Yank.pushBreak, ends, empty, Bool.false_eq_true, if_false]
      rfl
    · have filled : yank.segments.isEmpty = false := List.isEmpty_eq_false_iff.mpr empty
      simp only [pieces, Yank.pushBreak, ends, filled, Bool.or_self, Bool.false_eq_true, if_false,
        if_true, Yank.extendLast_concat, List.append_nil, List.nil_append,
        Yank.extendLast_nil empty]

/-- No text put before the first piece. -/
theorem prependFirst_nil {pieces : List Text} (h : pieces ≠ []) :
    prependFirst [] pieces = pieces := by
  obtain ⟨first, rest, rfl⟩ := List.exists_cons_of_ne_nil h
  rfl

/-- Text put before the first piece leaves the pieces behind it alone. -/
theorem prependFirst_append {pieces : List Text} (h : pieces ≠ []) (text : Text)
    (lines : List Text) :
    prependFirst text pieces ++ lines = prependFirst text (pieces ++ lines) := by
  obtain ⟨first, rest, rfl⟩ := List.exists_cons_of_ne_nil h
  rfl

/-- Text put before the first piece and text put behind the last do not meet in between. -/
theorem extendLast_prependFirst {pieces : List Text} (h : pieces ≠ []) (before behind : Text) :
    Yank.extendLast behind (prependFirst before pieces) =
      prependFirst before (Yank.extendLast behind pieces) := by
  obtain ⟨first, rest, rfl⟩ := List.exists_cons_of_ne_nil h
  cases rest with
  | nil => simp only [prependFirst, Yank.extendLast, List.append_assoc]
  | cons next rest => rfl

end Editor

end LootRules
