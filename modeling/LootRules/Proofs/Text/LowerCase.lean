import LootRules.Proofs.Text
import LootRules.Text.LowerCase

/-!
# Lowered texts

Lowering is settled after one application, since no character that it makes can be lowered
further. Beyond ASCII this is a property of the table, checked over the codes that its runs lead
to; nothing else is taken from the table, apart from where these codes lie.

Where they lie says which characters lowering cannot make: no capital from A to Z, no mark of a
rule line and no control character comes into a text by lowering it.
-/

namespace LootRules.Text

/-- The codes of a run. -/
def CaseRun.codes (run : CaseRun) : List Nat :=
  ((List.range (run.last + 1 - run.first)).filter (· % run.step = 0)).map (run.first + ·)

/-- The codes that those of a run are lowered to. -/
def CaseRun.images (run : CaseRun) : List Nat :=
  run.codes.map fun n : Nat => ((n : Int) + run.shift).toNat

/-- A code either stays, or belongs to some run and is lowered as that run says. -/
theorem lowerCode_cases (runs : List CaseRun) (n : Nat) :
    lowerCode runs n = n ∨
      n ∈ runs.flatMap CaseRun.codes ∧ lowerCode runs n ∈ runs.flatMap CaseRun.images := by
  induction runs with
  | nil => exact .inl rfl
  | cons run runs ih =>
    rw [lowerCode, List.flatMap_cons, List.flatMap_cons]
    split
    · exact .inl rfl
    · next least =>
      split
      · next inside =>
        obtain ⟨most, step⟩ : n ≤ run.last ∧ (n - run.first) % run.step = 0 := by
          simpa using inside
        have code : n ∈ run.codes := by
          refine List.mem_map.mpr ⟨n - run.first, ?_, by omega⟩
          rw [List.mem_filter, List.mem_range, decide_eq_true_iff]
          exact ⟨by omega, step⟩
        exact .inr ⟨List.mem_append_left _ code,
          List.mem_append_left _ (List.mem_map.mpr ⟨n, code, rfl⟩)⟩
      · exact ih.imp_right fun ⟨code, image⟩ =>
          ⟨List.mem_append_right _ code, List.mem_append_right _ image⟩

/-- A list of codes as the bits of one number, on which lists are compared at once. -/
def bits (codes : List Nat) : Nat := codes.foldr (fun n word => 1 <<< n ||| word) 0

/-- The bits are those of the listed codes. -/
theorem testBit_bits {codes : List Nat} {n : Nat} (h : n ∈ codes) : (bits codes).testBit n := by
  induction codes with
  | nil => contradiction
  | cons m codes ih =>
    rw [bits, List.foldr_cons, Nat.testBit_or, Bool.or_eq_true]
    rcases List.mem_cons.mp h with rfl | mem
    · exact .inl (by simp [Nat.one_shiftLeft])
    · exact .inr (ih mem)

/-- No code that the table leads to has a lower-case counterpart in turn. -/
theorem lowerCode_eq_self_of_mem_images {n : Nat} (h : n ∈ lowerRuns.flatMap CaseRun.images) :
    lowerCode lowerRuns n = n := by
  have apart : bits (lowerRuns.flatMap CaseRun.codes) &&& bits (lowerRuns.flatMap CaseRun.images) =
      0 := by
    decide +kernel
  refine (lowerCode_cases lowerRuns n).resolve_right fun lowered => ?_
  have code := lowered.1
  have both := Nat.testBit_and (bits (lowerRuns.flatMap CaseRun.codes))
    (bits (lowerRuns.flatMap CaseRun.images)) n
  rw [apart, testBit_bits code, testBit_bits h] at both
  simp at both

/-- The codes that the table leads to are those of characters: the letter k, and small letters
beyond ASCII. The two capitals that are lowered otherwise are not among them. -/
theorem image_bounds : ∀ n ∈ lowerRuns.flatMap CaseRun.images,
    n ≠ 'Σ'.toNat ∧ n ≠ 'İ'.toNat ∧ n.isValidChar ∧ (n = 'k'.toNat ∨ 'ß'.toNat ≤ n) := by
  decide +kernel

/-- A character that lowering leaves alone, whatever its neighbours are. -/
def Settled (c : Char) : Prop := c ≠ 'Σ' ∧ lowerChar c = [c]

instance (c : Char) : Decidable (Settled c) := inferInstanceAs (Decidable (_ ∧ _))

/-- Of ASCII only the capitals are not settled. -/
theorem settled_of_ascii {c : Char} (ascii : c.toNat < 0x80) (small : c.isUpper = false) :
    Settled c := by
  refine ⟨?_, ?_⟩
  · rintro rfl
    exact absurd ascii (by decide)
  · rw [lowerChar, if_pos ascii, toLower_eq_self small]

/-- The characters that the table leads to are settled. -/
theorem settled_of_mem_images {n : Nat} (h : n ∈ lowerRuns.flatMap CaseRun.images) :
    Settled (Char.ofNat n) ∧ (Char.ofNat n).toNat = n := by
  obtain ⟨sigma, dotted, valid, small⟩ := image_bounds n h
  have code : (Char.ofNat n).toNat = n := by
    rw [Char.ofNat, dif_pos valid]
    rfl
  rcases small with rfl | small
  · exact ⟨settled_of_ascii (by decide) (by decide), code⟩
  · have other {c : Char} (differ : n ≠ c.toNat) : Char.ofNat n ≠ c := fun same =>
      differ (same ▸ code.symm)
    have beyond : ¬ (Char.ofNat n).toNat < 0x80 := by
      rw [code, Nat.not_lt]
      exact Nat.le_trans (by decide) small
    refine ⟨⟨other sigma, ?_⟩, code⟩
    rw [lowerChar, if_neg beyond, if_neg (other dotted), code, lowerCode_eq_self_of_mem_images h]

/-- A text of settled characters is not changed by lowering. -/
theorem lowerAfter_eq_self {s : Text} (h : ∀ c ∈ s, Settled c) (after : Bool) :
    lowerAfter after s = s := by
  induction s generalizing after with
  | nil => rfl
  | cons c s ih =>
    obtain ⟨sigma, same⟩ := h c List.mem_cons_self
    rw [lowerAfter, if_neg sigma, same, ih fun d hd => h d (List.mem_cons_of_mem c hd)]
    rfl

/-- The characters that lowering may bring into a text: small letters from a to z, and characters
beyond the control characters of Latin. -/
def Lowered (c : Char) : Prop := (97 ≤ c.toNat ∧ c.toNat ≤ 122) ∨ 160 ≤ c.toNat

instance (c : Char) : Decidable (Lowered c) := inferInstanceAs (Decidable (_ ∨ _))

/-- The lower-case form of a single character is settled, and is that character or a small
letter. -/
theorem mem_lowerChar {c d : Char} (sigma : c ≠ 'Σ') (h : d ∈ lowerChar c) :
    Settled d ∧ (d = c ∨ Lowered d) := by
  rw [lowerChar] at h
  split at h
  · next ascii =>
    obtain rfl := List.mem_singleton.mp h
    cases upper : c.isUpper with
    | true =>
      have codes := isUpper_iff.mp upper
      have code := toNat_toLower upper
      have small : c.toLower.isUpper = false := by
        rw [Bool.eq_false_iff, ne_eq, isUpper_iff]
        omega
      exact ⟨settled_of_ascii (by omega) small, .inr (.inl (by omega))⟩
    | false =>
      rw [toLower_eq_self upper]
      exact ⟨settled_of_ascii ascii upper, .inl rfl⟩
  · next beyond =>
    split at h
    · have letter : Settled 'i' ∧ Lowered 'i' := by decide +kernel
      have dot : Settled '\u0307' ∧ Lowered '\u0307' := by decide +kernel
      have forms : ∀ d ∈ ['i', '\u0307'], Settled d ∧ Lowered d :=
        List.forall_mem_cons.mpr ⟨letter, List.forall_mem_singleton.mpr dot⟩
      exact (forms d h).imp_right .inr
    · next dotted =>
      obtain rfl := List.mem_singleton.mp h
      rcases lowerCode_cases lowerRuns c.toNat with same | ⟨-, image⟩
      · rw [same, Char.ofNat_toNat]
        refine ⟨⟨sigma, ?_⟩, .inl rfl⟩
        rw [lowerChar, if_neg beyond, if_neg dotted, same, Char.ofNat_toNat]
      · obtain ⟨settled, code⟩ := settled_of_mem_images image
        refine ⟨settled, .inr ?_⟩
        rw [Lowered, code]
        rcases (image_bounds _ image).2.2.2 with same | small
        · rw [same]
          decide
        · exact .inr (Nat.le_trans (by decide) small)

/-- The characters of a lowered text are settled, and are characters of the text or small
letters. -/
theorem mem_lowerAfter {s : Text} {after : Bool} {d : Char} (h : d ∈ lowerAfter after s) :
    Settled d ∧ (d ∈ s ∨ Lowered d) := by
  induction s generalizing after with
  | nil => contradiction
  | cons c s ih =>
    rw [lowerAfter, List.mem_append] at h
    rcases h with here | later
    · split at here
      · have final : Settled 'ς' ∧ Lowered 'ς' := by decide +kernel
        have small : Settled 'σ' ∧ Lowered 'σ' := by decide +kernel
        have form : Settled d ∧ Lowered d := by
          rw [List.mem_singleton.mp here]
          split
          · exact final
          · exact small
        exact form.imp_right .inr
      · next sigma =>
        obtain ⟨settled, same | lowered⟩ := mem_lowerChar sigma here
        · exact ⟨settled, .inl (same ▸ List.mem_cons_self)⟩
        · exact ⟨settled, .inr lowered⟩
    · obtain ⟨settled, mem⟩ := ih later
      exact ⟨settled, mem.imp_left (List.mem_cons_of_mem c)⟩

/-- Lowering is settled after one application. -/
theorem lower_lower (s : Text) : lower (lower s) = lower s :=
  lowerAfter_eq_self (fun _ h => (mem_lowerAfter h).1) false

/-- A character of a lowered text is a character of the text or a small letter. -/
theorem mem_or_lowered_of_mem_lower {s : Text} {c : Char} (h : c ∈ lower s) : c ∈ s ∨ Lowered c :=
  (mem_lowerAfter h).2

/-- Lowering leaves no capital from A to Z. -/
theorem isUpper_eq_false_of_mem_lower {s : Text} {c : Char} (h : c ∈ lower s) :
    c.isUpper = false := by
  obtain ⟨⟨-, same⟩, -⟩ := mem_lowerAfter h
  cases upper : c.isUpper with
  | false => rfl
  | true =>
    have codes := isUpper_iff.mp upper
    rw [lowerChar, if_pos (by omega)] at same
    have code := toNat_toLower upper
    rw [List.cons.inj same |>.1] at code
    omega

end LootRules.Text
