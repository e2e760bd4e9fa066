import LootRules.Proofs.Text.Join

/-!
# Where clusters meet

The rules for clusters look back over a text as far as it takes. A regional indicator counts those
right before it. A pictograph and a consonant look for another one before them, past all the marks
in between. A text is cut into clusters with less: only the end of the last cluster is kept, and
where the next one starts it is forgotten.

No rule misses what is forgotten. At every place, what is kept is what the rules see from there when
they look back over the whole text (`lookingBack_cons`, `lookingBack_cons_of_apart`). So clusters
meet just where the rules put a border (`exists_beforeColumn_iff`).
-/

namespace LootRules.Text

namespace ClusterRole

/-- The marks that a pictograph may have before a joiner. -/
def marksPictograph : ClusterRole → Bool
  | extend | linker | nonJoiner => true
  | _ => false

/-- What may stand between the consonants of a conjunct. -/
def insideConjunct : ClusterRole → Bool
  | extend | joiner | linker => true
  | _ => false

end ClusterRole

namespace ClusterEnd

open ClusterRole

/-- The number of regional indicators right before a place is odd. Here and below, the parts of the
characters before a place are given from the nearest to the first. -/
def OddRegionals (before : List ClusterRole) : Prop :=
  (before.takeWhile (· = .regional)).length % 2 = 1

/-- There is a pictograph before, with only its marks behind it. -/
def ShowsPictograph (before : List ClusterRole) : Prop :=
  (before.dropWhile marksPictograph).head? = some .pictograph

/-- There is a joiner right before, and a pictograph before that. -/
def JoinsPictograph (before : List ClusterRole) : Prop :=
  before.head? = some .joiner ∧ ShowsPictograph before.tail

/-- There is a consonant before, and nothing behind it that ends a conjunct. -/
def OpensConjunct (before : List ClusterRole) : Prop :=
  (before.dropWhile insideConjunct).head? = some .consonant

/-- There is a linker before, and nothing behind it that ends a conjunct. -/
def LinksConjunct (before : List ClusterRole) : Prop := .linker ∈ before.takeWhile insideConjunct

instance : DecidablePred OddRegionals := fun _ => inferInstanceAs (Decidable (_ = _))
instance : DecidablePred ShowsPictograph := fun _ => inferInstanceAs (Decidable (_ = _))
instance : DecidablePred JoinsPictograph := fun _ => inferInstanceAs (Decidable (_ ∧ _))
instance : DecidablePred OpensConjunct := fun _ => inferInstanceAs (Decidable (_ = _))
instance : DecidablePred LinksConjunct := fun _ => inferInstanceAs (Decidable (_ ∈ _))

/-- What the rules see when they look back over a whole text, instead of the end of a cluster. -/
def lookingBack (before : List ClusterRole) : ClusterEnd where
  last := before.headD .other
  unpaired := OddRegionals before
  pictograph :=
    if ShowsPictograph before then .shown else if JoinsPictograph before then .joined else .none
  conjunct :=
    if OpensConjunct before then if LinksConjunct before then .linked else .consonant else .none

/-- One more regional indicator has a partner if the one before it has none. -/
theorem oddRegionals_cons (role : ClusterRole) (before : List ClusterRole) :
    OddRegionals (role :: before) ↔ role = .regional ∧ ¬OddRegionals before := by
  rw [OddRegionals, OddRegionals, List.takeWhile_cons]
  by_cases regional : role = .regional
  · simp only [regional, decide_true, if_true, List.length_cons, true_and]
    omega
  · simp [regional]

/-- A pictograph goes on with its marks. -/
theorem showsPictograph_cons (role : ClusterRole) (before : List ClusterRole) :
    ShowsPictograph (role :: before) ↔
      role = .pictograph ∨ role.marksPictograph = true ∧ ShowsPictograph before := by
  rw [ShowsPictograph, ShowsPictograph, List.dropWhile_cons]
  cases mark : role.marksPictograph with
  | true =>
    have other : role ≠ .pictograph := by
      rintro rfl
      contradiction
    simp [other]
  | false => simp

/-- A conjunct starts with a consonant and goes on with what may stand inside it. -/
theorem opensConjunct_cons (role : ClusterRole) (before : List ClusterRole) :
    OpensConjunct (role :: before) ↔
      role = .consonant ∨ role.insideConjunct = true ∧ OpensConjunct before := by
  rw [OpensConjunct, OpensConjunct, List.dropWhile_cons]
  cases inside : role.insideConjunct with
  | true =>
    have other : role ≠ .consonant := by
      rintro rfl
      contradiction
    simp [other]
  | false => simp

/-- A conjunct is linked by a linker, and stays so. -/
theorem linksConjunct_cons (role : ClusterRole) (before : List ClusterRole) :
    LinksConjunct (role :: before) ↔
      role = .linker ∨ role.insideConjunct = true ∧ LinksConjunct before := by
  rw [LinksConjunct, LinksConjunct, List.takeWhile_cons]
  cases inside : role.insideConjunct with
  | true => simp [eq_comm]
  | false =>
    have other : role ≠ .linker := by
      rintro rfl
      contradiction
    simp [other]

/-- The state of a pictograph at the end of a cluster follows what stands before. -/
theorem pictograph_lookingBack_cons (role : ClusterRole) (before : List ClusterRole) :
    (lookingBack (role :: before)).pictograph = ((lookingBack before).next role).pictograph := by
  simp only [lookingBack, next, showsPictograph_cons, JoinsPictograph, List.head?_cons,
    List.tail_cons]
  by_cases shows : ShowsPictograph before
  · cases role <;> simp [marksPictograph, shows]
  · by_cases joined : before.head? = some .joiner ∧ ShowsPictograph before.tail <;>
      cases role <;> simp [marksPictograph, shows, joined]

/-- The state of a conjunct at the end of a cluster follows what stands before. -/
theorem conjunct_lookingBack_cons (role : ClusterRole) (before : List ClusterRole) :
    (lookingBack (role :: before)).conjunct = ((lookingBack before).next role).conjunct := by
  simp only [lookingBack, next, opensConjunct_cons, linksConjunct_cons]
  by_cases opens : OpensConjunct before
  · by_cases linked : LinksConjunct before <;> cases role <;>
      simp [insideConjunct, opens, linked]
  · cases role <;> simp [insideConjunct, opens]

/-- What is kept of a cluster changes with each character as what the rules see does. -/
theorem lookingBack_cons (role : ClusterRole) (before : List ClusterRole) :
    lookingBack (role :: before) = (lookingBack before).next role := by
  have unpaired : (lookingBack (role :: before)).unpaired =
      ((lookingBack before).next role).unpaired := by
    simp [lookingBack, next, oddRegionals_cons]
  exact (mk.injEq ..).mpr ⟨rfl, unpaired, pictograph_lookingBack_cons role before,
    conjunct_lookingBack_cons role before⟩

/-- Before the first character there is nothing to see, as at the start of a cluster. -/
theorem lookingBack_singleton (role : ClusterRole) : lookingBack [role] = start role :=
  lookingBack_cons role []

/-- A regional indicator that does not join has no other without a partner before it. -/
theorem not_oddRegionals_of_apart {before : List ClusterRole}
    (apart : (lookingBack before).joins .regional = false) : ¬OddRegionals before := by
  intro odd
  cases before with
  | nil => contradiction
  | cons last before =>
    obtain ⟨rfl, -⟩ := (oddRegionals_cons last before).mp odd
    have unpaired : (lookingBack (.regional :: before)).unpaired = true := decide_eq_true odd
    exact absurd (unpaired.symm.trans apart) Bool.noConfusion

/-- A mark joins every cluster that does not end in a control. -/
theorem last_of_apart {e : ClusterEnd} {role : ClusterRole}
    (mark : role ∈ [.extend, .linker, .joiner, .nonJoiner]) (apart : e.joins role = false) :
    e.last = .carriageReturn ∨ e.last = .lineFeed ∨ e.last = .control := by
  obtain ⟨last, _, _, _⟩ := e
  simp only [List.mem_cons, List.not_mem_nil, or_false] at mark
  rcases mark with rfl | rfl | rfl | rfl <;> cases last <;> simp_all [joins]

/-- Behind a control the rules see neither a pictograph nor a conjunct. -/
theorem states_of_apart {role : ClusterRole} {before : List ClusterRole}
    (mark : role ∈ [.extend, .linker, .joiner, .nonJoiner])
    (apart : (lookingBack before).joins role = false) :
    (lookingBack before).pictograph = .none ∧ (lookingBack before).conjunct = .none := by
  cases before with
  | nil => exact ⟨rfl, rfl⟩
  | cons last before =>
    have control : last = .carriageReturn ∨ last = .lineFeed ∨ last = .control :=
      last_of_apart mark apart
    rw [lookingBack_cons]
    rcases control with rfl | rfl | rfl <;> exact ⟨rfl, rfl⟩

/-- Where a cluster starts, what is forgotten of those before it does not matter: the rules see the
same. -/
theorem lookingBack_cons_of_apart {role : ClusterRole} {before : List ClusterRole}
    (apart : (lookingBack before).joins role = false) :
    lookingBack (role :: before) = start role := by
  rw [lookingBack_cons]
  by_cases regional : role = .regional
  · subst regional
    have paired : (lookingBack before).unpaired = false :=
      decide_eq_false (not_oddRegionals_of_apart apart)
    simp [start, next, paired]
  · by_cases mark : role ∈ [.extend, .linker, .joiner, .nonJoiner]
    · obtain ⟨pictograph, conjunct⟩ := states_of_apart mark apart
      cases role <;> simp_all [start, next]
    -- What is left starts its own states, or ends those of the cluster before.
    · cases role <;> simp_all [start, next]

end ClusterEnd

/-- Whether the rules put a border between two texts. They look back over all of the first one, and
ahead to the first character of the second. -/
def Border (before : Text) : Text → Prop
  | [] => True
  | c :: _ =>
    before = [] ∨
      (ClusterEnd.lookingBack (before.map clusterRole).reverse).joins (clusterRole c) = false

instance (before behind : Text) : Decidable (Border before behind) :=
  match behind with
  | [] => inferInstanceAs (Decidable True)
  | _ :: _ => inferInstanceAs (Decidable (_ ∨ _))

/-- In a text behind other characters, a cluster starts where the rules put a border, when they look
back over those characters too. -/
theorem exists_clustersAfter_iff (seen : List ClusterRole) (before : Text) (c : Char)
    (behind : Text) :
    (∃ n, (clustersAfter (.lookingBack seen) (before ++ c :: behind)).1 ++
        ((clustersAfter (.lookingBack seen) (before ++ c :: behind)).2.take n).flatten = before) ↔
      (ClusterEnd.lookingBack ((before.map clusterRole).reverse ++ seen)).joins (clusterRole c) =
        false := by
  induction before generalizing seen with
  | nil =>
    rw [List.nil_append, clustersAfter]
    dsimp only [List.map_nil, List.reverse_nil, List.nil_append]
    split
    · next joins => simp [joins]
    · next apart => exact ⟨fun _ => Bool.eq_false_iff.mpr apart, fun _ => ⟨0, rfl⟩⟩
  | cons d before ih =>
    have roles : ((d :: before).map clusterRole).reverse ++ seen =
        (before.map clusterRole).reverse ++ clusterRole d :: seen := by simp
    rw [roles, ← ih, List.cons_append, clustersAfter]
    dsimp only
    split
    · rw [ClusterEnd.lookingBack_cons]
      simp
    · next apart =>
      -- The cluster that starts here is counted on the left, but not yet on the right.
      rw [ClusterEnd.lookingBack_cons_of_apart (Bool.eq_false_iff.mpr apart)]
      constructor
      · rintro ⟨_ | n, here⟩
        · exact absurd here (by simp)
        · exact ⟨n, by simpa using here⟩
      · rintro ⟨n, here⟩
        exact ⟨n + 1, by simpa using here⟩

/-- A column stands between two parts of a text just if the rules put a border there. -/
theorem exists_beforeColumn_iff (before behind : Text) :
    (∃ col, beforeColumn col (before ++ behind) = before) ↔ Border before behind := by
  cases behind with
  | nil =>
    rw [List.append_nil]
    exact ⟨fun _ => trivial, fun _ => ⟨_, beforeColumn_of_le (Nat.le_refl _)⟩⟩
  | cons c behind =>
    cases before with
    | nil => exact ⟨fun _ => .inl rfl, fun _ => ⟨0, rfl⟩⟩
    | cons d before =>
      have inside := exists_clustersAfter_iff [clusterRole d] before c behind
      rw [ClusterEnd.lookingBack_singleton] at inside
      rw [Border, or_iff_right (List.cons_ne_nil d before), List.map_cons, List.reverse_cons,
        ← inside]
      constructor
      · rintro ⟨_ | n, here⟩
        · contradiction
        · exact ⟨n, (List.cons.inj here).2⟩
      · rintro ⟨n, here⟩
        exact ⟨n + 1, congrArg (d :: ·) here⟩

end LootRules.Text
