import LootRules.Proofs.Text.Join

/-!
# Columns and characters

What is cut out of a line between columns leaves the characters of the line, in their order.

Most characters do not join the cluster before them, and are not joined by others like them:
letters, digits and signs that are no marks, and the control characters. In a text of such
characters every character is a cluster, and so its columns count characters.
-/

namespace LootRules.Text

/-- Clusters of a text, in their order, are a part of the text. -/
theorem flatten_sublist {s : Text} {cs : List Text} (h : cs.Sublist (clusters s)) :
    cs.flatten.Sublist s := by
  rw [← clusters_flatten s]
  generalize clusters s = all at h
  induction h with
  | slnil => exact .refl _
  | cons c _ ih => exact ih.trans (List.sublist_append_right c _)
  | cons_cons c _ ih => exact (List.Sublist.refl c).append ih

/-- The text before a column is a part of the text. -/
theorem beforeColumn_sublist (col : Nat) (s : Text) : (beforeColumn col s).Sublist s :=
  flatten_sublist (List.take_sublist col _)

/-- The text from a column on is a part of the text. -/
theorem fromColumn_sublist (col : Nat) (s : Text) : (fromColumn col s).Sublist s :=
  flatten_sublist (List.drop_sublist col _)

/-- The text between two columns is a part of the text. -/
theorem betweenColumns_sublist (first last : Nat) (s : Text) :
    (betweenColumns first last s).Sublist s :=
  flatten_sublist ((List.drop_sublist first _).trans (List.take_sublist last _))

/-- What is left around two columns is a part of the text, if they are in order, or if nothing is
left behind the second. -/
theorem eraseColumns_sublist {first last : Nat} {s : Text}
    (order : first ≤ last ∨ columns s ≤ last) : (eraseColumns first last s).Sublist s := by
  rw [eraseColumns]
  rcases order with order | past
  · rw [beforeColumn, fromColumn, ← List.flatten_append]
    refine flatten_sublist ?_
    have kept := (List.Sublist.refl ((clusters s).take first)).append
      (List.drop_sublist_drop_left (clusters s) order)
    rw [List.take_append_drop] at kept
    exact kept
  · rw [fromColumn_of_le past, List.append_nil]
    exact beforeColumn_sublist first s

/-- A character that is a cluster by itself next to others like it. -/
def Alone (c : Char) : Prop := clusterRole c = .other ∨ clusterRole c = .control

instance (c : Char) : Decidable (Alone c) := inferInstanceAs (Decidable (_ ∨ _))

/-- A character that stands alone does not join the cluster of another. -/
theorem joins_start_of_alone {c d : Char} (hc : Alone c) (hd : Alone d) :
    (ClusterEnd.start (clusterRole c)).joins (clusterRole d) = false := by
  rcases hc with hc | hc <;> rcases hd with hd | hd <;> rw [hc, hd] <;> rfl

/-- Nothing is added to the cluster of a character that stands alone, and behind it every character
is a cluster. -/
theorem clustersAfter_of_alone {c : Char} {s : Text} (hc : Alone c) (hs : ∀ d ∈ s, Alone d) :
    clustersAfter (.start (clusterRole c)) s = ([], s.map ([·])) := by
  induction s generalizing c with
  | nil => rfl
  | cons d s ih =>
    obtain ⟨hd, rest⟩ := List.forall_mem_cons.mp hs
    rw [clustersAfter]
    simp only [joins_start_of_alone hc hd, Bool.false_eq_true, if_false, ih hd rest]
    rfl

/-- In a text of characters that stand alone every character is a cluster. -/
theorem clusters_of_alone {s : Text} (h : ∀ c ∈ s, Alone c) : clusters s = s.map ([·]) := by
  cases s with
  | nil => rfl
  | cons c s =>
    obtain ⟨hc, hs⟩ := List.forall_mem_cons.mp h
    rw [clusters, clustersAfter_of_alone hc hs]
    rfl

/-- In a text of characters that stand alone the columns count them. -/
theorem columns_of_alone {s : Text} (h : ∀ c ∈ s, Alone c) : columns s = s.length := by
  rw [columns, clusters_of_alone h, List.length_map]

/-- Characters that are clusters by themselves, put together, are the text. -/
theorem flatten_map_singleton (s : Text) : (s.map fun c : Char => [c]).flatten = s := by
  rw [← List.flatMap_def, List.flatMap_singleton']

/-- The text before a column has as many characters, where characters stand alone. -/
theorem beforeColumn_of_alone {s : Text} (h : ∀ c ∈ s, Alone c) (col : Nat) :
    beforeColumn col s = s.take col := by
  rw [beforeColumn, clusters_of_alone h, ← List.map_take, flatten_map_singleton]

/-- The text from a column on leaves out as many characters, where characters stand alone. -/
theorem fromColumn_of_alone {s : Text} (h : ∀ c ∈ s, Alone c) (col : Nat) :
    fromColumn col s = s.drop col := by
  rw [fromColumn, clusters_of_alone h, ← List.map_drop, flatten_map_singleton]

/-- The text between two columns is cut out by characters, where characters stand alone. -/
theorem betweenColumns_of_alone {s : Text} (h : ∀ c ∈ s, Alone c) (first last : Nat) :
    betweenColumns first last s = (s.take last).drop first := by
  rw [betweenColumns, clusters_of_alone h, ← List.map_take, ← List.map_drop,
    flatten_map_singleton]

/-- The printable characters of ASCII, from the space to the tilde. -/
def Printable (c : Char) : Prop := ' ' ≤ c ∧ c ≤ '~'

instance (c : Char) : Decidable (Printable c) := inferInstanceAs (Decidable (_ ∧ _))

/-- Printable characters stand alone. -/
theorem alone_of_printable {c : Char} (h : Printable c) : Alone c := by
  have low : 0x20 ≤ c.toNat := h.1
  have high : c.toNat ≤ 0x7E := h.2
  refine .inl ?_
  rw [clusterRole, if_neg, if_neg, if_neg, if_pos (Nat.lt_succ_of_le high)]
  · simp only [Bool.or_eq_true, decide_eq_true_iff]
    omega
  · rintro rfl
    exact absurd low (by decide)
  · rintro rfl
    exact absurd low (by decide)

/-- Putting in a character makes a line longer by one. -/
theorem length_insertAtColumn (col : Nat) (c : Char) (s : Text) :
    (insertAtColumn col c s).length = s.length + 1 := by
  have whole := congrArg List.length (beforeColumn_append_fromColumn col s)
  rw [List.length_append] at whole
  rw [insertAtColumn, List.length_append, List.length_cons]
  omega

/-- Putting in a character brings in no other. -/
theorem mem_insertAtColumn {col : Nat} {c d : Char} {s : Text} (h : d ∈ insertAtColumn col c s) :
    d = c ∨ d ∈ s := by
  rw [insertAtColumn, List.mem_append, List.mem_cons] at h
  rcases h with before | same | behind
  · exact .inr ((beforeColumn_sublist col s).subset before)
  · exact .inl same
  · exact .inr ((fromColumn_sublist col s).subset behind)

end LootRules.Text
