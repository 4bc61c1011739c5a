import Mathlib.Tactic.Push
import SampleSchema.FieldType.Merge

/-!
# Joining types

`FieldType.join` takes the type that holds for two: `unknown` adds nothing, `mixed` absorbs
everything, and between the two any types that differ join to `mixed`. So the join of a list does
not depend on its order or on where it is cut (`joinAll_perm`, `joinAll_append`). Types AGREE if no
two known ones differ; they then join to the first known one (`joinAll_of_agree`), else to `mixed`
(`joinAll_of_not_agree`). That is what a list of types WIDENS TO (`widensTo_iff`).
-/

namespace SampleSchema

namespace FieldType

/-! ## 1. Two types -/

theorem combine?_unknown (t : FieldType) : t.combine? .unknown = some t := by
  simp [combine?]

theorem combine?_self (t : FieldType) : t.combine? t = some t := by
  simp [combine?]

theorem unknown_combine? (t : FieldType) : unknown.combine? t = some t := by
  by_cases h : t = .unknown
  · rw [h, combine?_unknown]
  · simp [combine?, h, Ne.symm h]

/-- **Two types do not go together exactly if they differ and both are known.** -/
theorem combine?_eq_none_iff {t u : FieldType} :
    t.combine? u = none ↔ t ≠ .unknown ∧ u ≠ .unknown ∧ t ≠ u := by
  unfold combine?
  by_cases hu : u = .unknown
  · simp [hu]
  · by_cases htu : t = u
    · simp [htu]
    · by_cases ht : t = .unknown
      · simp [hu, ht, Ne.symm hu]
      · simp [hu, htu, ht]

@[simp] theorem join_unknown (t : FieldType) : t.join .unknown = t := by
  simp [join, combine?_unknown]

@[simp] theorem unknown_join (t : FieldType) : unknown.join t = t := by
  simp [join, unknown_combine?]

@[simp] theorem join_self (t : FieldType) : t.join t = t := by
  simp [join, combine?_self]

/-- Known types that differ join to `mixed`. -/
theorem join_of_ne {t u : FieldType} (ht : t ≠ .unknown) (hu : u ≠ .unknown) (h : t ≠ u) :
    t.join u = .mixed := by
  unfold join
  rw [combine?_eq_none_iff.mpr ⟨ht, hu, h⟩]
  rfl

@[simp] theorem mixed_join (t : FieldType) : mixed.join t = .mixed := by
  by_cases ht : t = .unknown
  · rw [ht, join_unknown]
  · by_cases h : mixed = t
    · rw [← h, join_self]
    · exact join_of_ne (by decide) ht h

theorem join_comm (t u : FieldType) : t.join u = u.join t := by
  by_cases ht : t = .unknown
  · rw [ht, unknown_join, join_unknown]
  · by_cases hu : u = .unknown
    · rw [hu, unknown_join, join_unknown]
    · by_cases h : t = u
      · rw [h]
      · rw [join_of_ne ht hu h, join_of_ne hu ht (Ne.symm h)]

@[simp] theorem join_mixed (t : FieldType) : t.join .mixed = .mixed := by
  rw [join_comm, mixed_join]

theorem join_assoc (t u v : FieldType) : (t.join u).join v = t.join (u.join v) := by
  by_cases ht : t = .unknown
  · rw [ht, unknown_join, unknown_join]
  · by_cases hu : u = .unknown
    · rw [hu, unknown_join, join_unknown]
    · by_cases hv : v = .unknown
      · rw [hv, join_unknown, join_unknown]
      · by_cases htu : t = u
        · subst htu
          by_cases htv : t = v
          · rw [htv, join_self, join_self]
          · rw [join_self, join_of_ne ht hv htv, join_mixed]
        · rw [join_of_ne ht hu htu, mixed_join]
          by_cases huv : u = v
          · rw [huv, join_self, join_of_ne ht hv (huv ▸ htu)]
          · rw [join_of_ne hu hv huv, join_mixed]

/-! ## 2. A list of types -/

/-- The join of types. -/
def joinAll (ts : List FieldType) : FieldType := ts.foldl join .unknown

@[simp] theorem joinAll_nil : joinAll [] = .unknown := rfl

theorem foldl_join (ts : List FieldType) (t : FieldType) :
    ts.foldl join t = t.join (joinAll ts) := by
  induction ts generalizing t with
  | nil => rw [List.foldl_nil, joinAll_nil, join_unknown]
  | cons u ts ih =>
    unfold joinAll
    rw [List.foldl_cons, List.foldl_cons, unknown_join, ih, ih u, join_assoc]

theorem joinAll_cons (t : FieldType) (ts : List FieldType) :
    joinAll (t :: ts) = t.join (joinAll ts) := by
  unfold joinAll
  rw [List.foldl_cons, unknown_join, foldl_join]
  rfl

/-- **Where a list is cut is nothing to its join.** -/
theorem joinAll_append (ts us : List FieldType) :
    joinAll (ts ++ us) = (joinAll ts).join (joinAll us) := by
  unfold joinAll
  rw [List.foldl_append, foldl_join]
  rfl

/-- **The order of a list is nothing to its join.** -/
theorem joinAll_perm {ts us : List FieldType} (h : ts.Perm us) : joinAll ts = joinAll us := by
  induction h with
  | nil => rfl
  | cons t _ ih => rw [joinAll_cons, joinAll_cons, ih]
  | swap t u ts =>
    rw [joinAll_cons, joinAll_cons, joinAll_cons, joinAll_cons, ← join_assoc, ← join_assoc,
      join_comm t u]
  | trans _ _ ih₁ ih₂ => rw [ih₁, ih₂]

/-! ## 3. What the join is -/

/-- No two known types among these differ. -/
def Agree (ts : List FieldType) : Prop :=
  ∀ t ∈ ts, ∀ u ∈ ts, t ≠ .unknown → u ≠ .unknown → t = u

instance (ts : List FieldType) : Decidable (Agree ts) :=
  inferInstanceAs (Decidable (∀ t ∈ ts, ∀ u ∈ ts, t ≠ .unknown → u ≠ .unknown → t = u))

/-- The first known type. -/
def firstKnown? (ts : List FieldType) : Option FieldType := ts.find? (· ≠ .unknown)

theorem agree_nil : Agree [] := fun t ht => (by cases ht)

theorem Agree.of_subset {ts us : List FieldType} (h : Agree us) (hsub : ∀ t ∈ ts, t ∈ us) :
    Agree ts :=
  fun t ht u hu => h t (hsub t ht) u (hsub u hu)

theorem firstKnown?_mem {ts : List FieldType} {t : FieldType} (h : firstKnown? ts = some t) :
    t ∈ ts ∧ t ≠ .unknown :=
  ⟨List.mem_of_find?_eq_some h, by simpa using List.find?_some h⟩

theorem joinAll_of_unknown {ts : List FieldType} (h : ∀ t ∈ ts, t = .unknown) :
    joinAll ts = .unknown := by
  induction ts with
  | nil => rfl
  | cons t ts ih =>
    rw [joinAll_cons, h t List.mem_cons_self, unknown_join,
      ih fun u hu => h u (List.mem_cons_of_mem _ hu)]

/-- The join of types that all are a given one where they are known. -/
theorem joinAll_of_forall {ts : List FieldType} {t : FieldType} (hmem : t ∈ ts)
    (h : ∀ u ∈ ts, u ≠ .unknown → u = t) : joinAll ts = t := by
  induction ts with
  | nil => cases hmem
  | cons u ts ih =>
    have hrest := fun v hv => h v (List.mem_cons_of_mem u hv)
    rw [joinAll_cons]
    by_cases ht : t ∈ ts
    · rw [ih ht hrest]
      by_cases hu : u = .unknown
      · rw [hu, unknown_join]
      · rw [h u List.mem_cons_self hu, join_self]
    · -- `t` is the head, and what is known behind it would be `t` again
      have htu : t = u := (List.mem_cons.mp hmem).resolve_right ht
      have hunknown : ∀ v ∈ ts, v = .unknown := by
        intro v hv
        refine Classical.byContradiction fun hne => ht ?_
        rw [← hrest v hv hne]
        exact hv
      rw [joinAll_of_unknown hunknown, join_unknown, htu]

/-- A type of a list adds nothing to the join of the list. -/
theorem join_joinAll_of_mem {ts : List FieldType} {t : FieldType} (h : t ∈ ts) :
    t.join (joinAll ts) = joinAll ts := by
  induction ts with
  | nil => cases h
  | cons u ts ih =>
    rw [joinAll_cons]
    rcases List.mem_cons.mp h with rfl | ht
    · rw [← join_assoc, join_self]
    · rw [← join_assoc, join_comm t u, join_assoc, ih ht]

/-- **Types that do not agree join to `mixed`.** -/
theorem joinAll_of_ne {ts : List FieldType} {t u : FieldType} (ht : t ∈ ts) (hu : u ∈ ts)
    (htk : t ≠ .unknown) (huk : u ≠ .unknown) (h : t ≠ u) : joinAll ts = .mixed := by
  have hjoin := join_joinAll_of_mem ht
  rw [← join_joinAll_of_mem hu, ← join_assoc, join_of_ne htk huk h, mixed_join] at hjoin
  rw [← join_joinAll_of_mem hu, ← hjoin]

theorem joinAll_of_not_agree {ts : List FieldType} (h : ¬ Agree ts) : joinAll ts = .mixed := by
  refine Classical.byContradiction fun hmixed => h fun t ht u hu htk huk => ?_
  refine Classical.byContradiction fun hne => hmixed ?_
  exact joinAll_of_ne ht hu htk huk hne

/-- **Types that agree join to the first known one.** -/
theorem joinAll_of_agree {ts : List FieldType} (h : Agree ts) :
    joinAll ts = (firstKnown? ts).getD .unknown := by
  cases hf : firstKnown? ts with
  | none =>
    have hunknown : ∀ t ∈ ts, t = .unknown := by
      intro t ht
      simpa using List.find?_eq_none.mp hf t ht
    rw [joinAll_of_unknown hunknown]
    rfl
  | some t =>
    obtain ⟨hmem, ht⟩ := firstKnown?_mem hf
    exact joinAll_of_forall hmem fun u hu huk => h u hu t hmem huk ht

/-- Types that agree join to each known one among them. -/
theorem Agree.joinAll_eq {ts : List FieldType} (h : Agree ts) {t : FieldType} (hmem : t ∈ ts)
    (ht : t ≠ .unknown) : joinAll ts = t :=
  joinAll_of_forall hmem fun u hu huk => h u hu t hmem huk ht

/-- The type that types widen to: `unknown` if all are, the known one if there is only one, and
    `mixed` if two known ones differ. -/
inductive WidensTo (ts : List FieldType) : FieldType → Prop where
  | unknown (h : ∀ t ∈ ts, t = .unknown) : WidensTo ts .unknown
  | known {t : FieldType} (hmem : t ∈ ts) (hk : t ≠ .unknown)
      (h : ∀ u ∈ ts, u ≠ .unknown → u = t) : WidensTo ts t
  | mixed {t u : FieldType} (ht : t ∈ ts) (hu : u ∈ ts) (htk : t ≠ .unknown) (huk : u ≠ .unknown)
      (hne : t ≠ u) : WidensTo ts .mixed

/-- **Types widen to their join**, and to nothing else. -/
theorem widensTo_iff {ts : List FieldType} {t : FieldType} : WidensTo ts t ↔ joinAll ts = t := by
  constructor
  · intro h
    cases h with
    | unknown h => exact joinAll_of_unknown h
    | known hmem _ h => exact joinAll_of_forall hmem h
    | mixed ht hu htk huk hne => exact joinAll_of_ne ht hu htk huk hne
  · rintro rfl
    by_cases hagree : Agree ts
    · rw [joinAll_of_agree hagree]
      cases hf : firstKnown? ts with
      | none => exact .unknown fun t ht => by simpa using List.find?_eq_none.mp hf t ht
      | some t =>
        obtain ⟨hmem, hk⟩ := firstKnown?_mem hf
        exact .known hmem hk fun u hu huk => hagree u hu t hmem huk hk
    · rw [joinAll_of_not_agree hagree]
      unfold Agree at hagree
      push Not at hagree
      obtain ⟨t, ht, u, hu, htk, huk, hne⟩ := hagree
      exact .mixed ht hu htk huk hne

/-- **Types that agree go on to agree as long as one more goes together with their join.** -/
theorem agree_append_singleton {ts : List FieldType} (h : Agree ts) (t : FieldType) :
    Agree (ts ++ [t]) ↔ (joinAll ts).combine? t ≠ none := by
  constructor
  · intro hall hnone
    obtain ⟨hk, htk, hne⟩ := combine?_eq_none_iff.mp hnone
    rw [joinAll_of_agree h] at hk hne
    cases hf : firstKnown? ts with
    | none => rw [hf] at hk; exact hk rfl
    | some u =>
      rw [hf] at hk hne
      have hmem := (firstKnown?_mem hf).1
      exact hne (hall u (List.mem_append_left _ hmem) t (by simp) hk htk)
  · intro hsome
    -- a known type of the list is its join, and the join goes together with `t`
    have hlast : ∀ u ∈ ts, u ≠ .unknown → t ≠ .unknown → u = t := by
      intro u hu huk htk
      rw [h.joinAll_eq hu huk] at hsome
      refine Classical.byContradiction fun hne => hsome ?_
      exact combine?_eq_none_iff.mpr ⟨huk, htk, hne⟩
    intro u hu v hv huk hvk
    rcases List.mem_append.mp hu with hu | hu
    · rcases List.mem_append.mp hv with hv | hv
      · exact h u hu v hv huk hvk
      · cases List.mem_singleton.mp hv
        exact hlast u hu huk hvk
    · cases List.mem_singleton.mp hu
      rcases List.mem_append.mp hv with hv | hv
      · exact (hlast v hv hvk huk).symm
      · cases List.mem_singleton.mp hv
        rfl

end FieldType

end SampleSchema
