import LootRules.Proofs.Text.Columns

/-!
# Cutting and joining clusters

A text that is cut between two of its clusters has the clusters on either side of the cut as its
own: nothing before a border decides about what is behind it. The other way round is not so. A
character put at a border may join the cluster before it, or be joined by what is behind it, or
both. It is a cluster of its own just if the columns count it, which is to say that the next column
behind the border is right behind the character.
-/

namespace LootRules.Text

/-- The clusters behind the first are those of the text behind it. -/
theorem clusters_flatten_clustersAfter (e : ClusterEnd) (s : Text) :
    clusters (clustersAfter e s).2.flatten = (clustersAfter e s).2 := by
  induction s generalizing e with
  | nil => rfl
  | cons c s ih =>
    rw [clustersAfter]
    dsimp only
    split
    · exact ih _
    · dsimp only
      rw [List.flatten_cons, List.cons_append, clustersAfter_flatten]
      rfl

/-- A text that ends between two clusters adds to a cluster what it added before, and has the
clusters that it had. -/
theorem clustersAfter_append_flatten {e : ClusterEnd} {s more : Text} {left right : List Text}
    (h : clustersAfter e s = (more, left ++ right)) :
    clustersAfter e (more ++ left.flatten) = (more, left) := by
  induction s generalizing e more left with
  | nil =>
    obtain ⟨rfl, empty⟩ := Prod.mk.inj h
    rw [(List.append_eq_nil_iff.mp empty.symm).1]
    rfl
  | cons c s ih =>
    rw [clustersAfter] at h
    dsimp only at h
    split at h
    · next joins =>
      obtain ⟨rfl, rest⟩ := Prod.mk.inj h
      have later := ih (Prod.ext rfl rest)
      rw [List.cons_append, clustersAfter]
      dsimp only
      rw [if_pos joins, later]
    · next apart =>
      obtain ⟨rfl, rest⟩ := Prod.mk.inj h
      cases left with
      | nil => rfl
      | cons first left =>
        obtain ⟨rfl, behind⟩ := List.cons.inj rest
        have later := ih (Prod.ext rfl behind)
        rw [List.nil_append, List.flatten_cons, List.cons_append, clustersAfter]
        dsimp only
        rw [if_neg apart, later]

/-- The clusters before a border are those of the text before it. -/
theorem clusters_flatten_left {s : Text} {left right : List Text} (h : clusters s = left ++ right) :
    clusters left.flatten = left := by
  cases left with
  | nil => rfl
  | cons first left =>
    cases s with
    | nil => contradiction
    | cons c s =>
      obtain ⟨rfl, rest⟩ := List.cons.inj h
      have cut := clustersAfter_append_flatten (Prod.ext rfl rest)
      rw [List.flatten_cons, List.cons_append, clusters, cut]

/-- The clusters behind a border are those of the text behind it. -/
theorem clusters_flatten_right {s : Text} {left right : List Text}
    (h : clusters s = left ++ right) : clusters right.flatten = right := by
  induction left generalizing s with
  | nil => rw [← List.nil_append right, ← h, clusters_flatten]
  | cons first left ih =>
    cases s with
    | nil => contradiction
    | cons c s =>
      obtain ⟨-, rest⟩ := List.cons.inj h
      have own := clusters_flatten_clustersAfter (.start (clusterRole c)) s
      rw [rest] at own
      exact ih own

/-- The clusters of the text before a column. -/
theorem clusters_beforeColumn (col : Nat) (s : Text) :
    clusters (beforeColumn col s) = (clusters s).take col :=
  clusters_flatten_left (List.take_append_drop col (clusters s)).symm

/-- The clusters of the text from a column on. -/
theorem clusters_fromColumn (col : Nat) (s : Text) :
    clusters (fromColumn col s) = (clusters s).drop col :=
  clusters_flatten_right (List.take_append_drop col (clusters s)).symm

/-- The text before a column has so many columns. -/
theorem columns_beforeColumn {col : Nat} {s : Text} (h : col ≤ columns s) :
    columns (beforeColumn col s) = col := by
  rw [columns, clusters_beforeColumn, List.length_take_of_le h]

/-- A character at the end of a text is its last cluster, or belongs to the last of those before. -/
theorem clustersAfter_concat (e : ClusterEnd) (s : Text) (c : Char) :
    clustersAfter e (s ++ [c]) = ((clustersAfter e s).1, (clustersAfter e s).2 ++ [[c]]) ∨
      (clustersAfter e (s ++ [c])).2.length = (clustersAfter e s).2.length := by
  induction s generalizing e with
  | nil =>
    simp only [List.nil_append, clustersAfter]
    split
    · exact .inr rfl
    · exact .inl rfl
  | cons d s ih =>
    rw [List.cons_append, clustersAfter, clustersAfter]
    dsimp only
    split
    · rcases ih (e.next (clusterRole d)) with own | joined
      · rw [own]
        exact .inl rfl
      · exact .inr joined
    · rcases ih (.start (clusterRole d)) with own | joined
      · rw [own]
        exact .inl rfl
      · refine .inr ?_
        rw [List.length_cons, List.length_cons, joined]

/-- A character at the end of a text adds a cluster of its own, or no column. -/
theorem clusters_concat (s : Text) (c : Char) :
    clusters (s ++ [c]) = clusters s ++ [[c]] ∨ columns (s ++ [c]) = columns s := by
  cases s with
  | nil => exact .inl rfl
  | cons d s =>
    rw [List.cons_append, columns, columns, clusters, clusters]
    rcases clustersAfter_concat (.start (clusterRole d)) s c with own | joined
    · rw [own]
      exact .inl rfl
    · refine .inr ?_
      rw [List.length_cons, List.length_cons, joined]

/-- A character at the end adds one column at most. -/
theorem columns_concat_le (s : Text) (c : Char) : columns (s ++ [c]) ≤ columns s + 1 := by
  rcases clusters_concat s c with own | joined
  · rw [columns, own, List.length_append]
    exact Nat.le_refl _
  · rw [joined]
    exact Nat.le_succ _

/-- A character between two texts is a cluster of its own, and they have the clusters that they have
without it. -/
def StandsAlone (before : Text) (c : Char) (behind : Text) : Prop :=
  clusters (before ++ c :: behind) = clusters before ++ [c] :: clusters behind

instance (before : Text) (c : Char) (behind : Text) : Decidable (StandsAlone before c behind) :=
  inferInstanceAs (Decidable (_ = _))

/-- Among characters that stand alone a character does so. -/
theorem standsAlone_of_alone {before behind : Text} {c : Char}
    (h : ∀ d ∈ before ++ c :: behind, Alone d) : StandsAlone before c behind := by
  obtain ⟨left, rest⟩ := List.forall_mem_append.mp h
  obtain ⟨-, right⟩ := List.forall_mem_cons.mp rest
  rw [StandsAlone, clusters_of_alone h, clusters_of_alone left, clusters_of_alone right,
    List.map_append, List.map_cons]

/-- With a character put in, the next column is right behind it just if it is at the end or stands
alone. -/
theorem beforeColumn_succ_columns_iff {before behind : Text} {c : Char} :
    beforeColumn (columns before + 1) (before ++ c :: behind) = before ++ [c] ↔
      behind = [] ∨ StandsAlone before c behind := by
  have split : before ++ c :: behind = before ++ [c] ++ behind := by simp
  constructor
  · intro here
    by_cases last : behind = []
    · exact .inl last
    right
    have inside : columns before + 1 ≤ columns (before ++ c :: behind) := by
      refine Nat.le_of_not_lt fun past => last ?_
      rw [beforeColumn_of_le (Nat.le_of_lt past), split] at here
      exact List.append_right_eq_self.mp here
    have left := clusters_beforeColumn (columns before + 1) (before ++ c :: behind)
    have right := clusters_fromColumn (columns before + 1) (before ++ c :: behind)
    have rest : fromColumn (columns before + 1) (before ++ c :: behind) = behind := by
      have whole := beforeColumn_append_fromColumn (columns before + 1) (before ++ c :: behind)
      rw [here, split] at whole
      rw [split]
      exact List.append_cancel_left whole
    rw [here] at left
    rw [rest] at right
    rw [StandsAlone,
      ← List.take_append_drop (columns before + 1) (clusters (before ++ c :: behind)), ← left,
      ← right]
    rcases clusters_concat before c with own | joined
    · rw [own, List.append_assoc]
      rfl
    · have count := columns_beforeColumn inside
      rw [here, joined] at count
      exact absurd count (Nat.ne_of_lt (Nat.lt_succ_self _))
  · rintro (rfl | own)
    · exact beforeColumn_of_le (columns_concat_le before c)
    · have taken : (clusters before ++ [c] :: clusters behind).take (columns before + 1) =
          clusters before ++ [[c]] := by
        rw [columns, List.take_length_add_append]
        rfl
      rw [beforeColumn, own, taken, List.flatten_append, clusters_flatten]
      rfl

/-- Columns behind the end are at the end. -/
theorem beforeColumn_min_columns (col : Nat) (s : Text) :
    beforeColumn (min col (columns s)) s = beforeColumn col s := by
  rw [beforeColumn, beforeColumn, columns, ← List.take_eq_take_min]

end LootRules.Text
