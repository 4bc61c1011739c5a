import SampleSchema.Proofs.Scan.Conflicts

/-!
# Types that know less

A type is BELOW another if it only leaves something open there: `unknown` is below everything, and
an array below an array if its element is. Values of a field whose types all are below one type give
no two pieces of evidence against each other, at any depth; two strategies notice that at the top
only. With nothing left open inside an array, such a field never conflicts; but two arrays of which
one is below the other, `[]` and `["x"]` say, are a conflict to `widen` and to `reject` like any two
known types that differ (`FieldModel.conflicts_below_one_type`).

* `FieldType.Below.comparable`: of two types below a third, one is below the other;
* `FieldType.below_joinAll`: types below one type join to a type below it, if they agree.
-/

namespace SampleSchema

namespace FieldType

/-! ## 1. Below -/

/-- A type that leaves open at most what the other one says. -/
inductive Below : FieldType → FieldType → Prop
  | unknown (t : FieldType) : Below .unknown t
  | refl (t : FieldType) : Below t t
  | array {t u : FieldType} (h : Below t u) : Below (.array t) (.array u)

namespace Below

/-- Below a type that is no array there is nothing but `unknown` and the type itself. -/
theorem eq_of_not_array {t bound : FieldType} (h : t.Below bound) (hbound : ∀ e, bound ≠ .array e)
    (ht : t ≠ .unknown) : t = bound := by
  cases h with
  | unknown => exact absurd rfl ht
  | refl => rfl
  | array h => exact absurd rfl (hbound _)

/-- `mixed` leaves nothing open, so it is below itself only. -/
theorem ne_mixed {t bound : FieldType} (h : t.Below bound) (hbound : bound ≠ .mixed) :
    t ≠ .mixed := by
  rintro rfl
  cases h
  exact hbound rfl

/-- **Of two types below a third, one is below the other.** -/
theorem comparable {t u bound : FieldType} (ht : t.Below bound) (hu : u.Below bound) :
    t.Below u ∨ u.Below t := by
  induction ht generalizing u with
  | unknown => exact Or.inl (.unknown u)
  | refl => exact Or.inr hu
  | @array t bound ht ih =>
    cases hu with
    | unknown => exact Or.inr (.unknown _)
    | refl => exact Or.inl (.array ht)
    | array hu => exact (ih hu).imp .array .array

/-- Where two known types below a third differ, they differ inside of arrays. -/
theorem arrays_of_ne {t u bound : FieldType} (ht : t.Below bound) (hu : u.Below bound)
    (htk : t ≠ .unknown) (huk : u ≠ .unknown) (hne : t ≠ u) :
    ∃ e e', t = .array e ∧ u = .array e' ∧ (e.Below e' ∨ e'.Below e) := by
  cases ht with
  | unknown => exact absurd rfl htk
  | refl =>
    cases hu with
    | unknown => exact absurd rfl huk
    | refl => exact absurd rfl hne
    | array hu => exact ⟨_, _, rfl, rfl, Or.inr hu⟩
  | array ht =>
    cases hu with
    | unknown => exact absurd rfl huk
    | refl => exact ⟨_, _, rfl, rfl, Or.inl ht⟩
    | array hu => exact ⟨_, _, rfl, rfl, ht.comparable hu⟩

end Below

/-! ## 2. Types below one type -/

section Bounded

variable {ts : List FieldType} {bound : FieldType} (hbelow : ∀ t ∈ ts, t.Below bound)
include hbelow

/-- Types below one that is no array agree. -/
theorem agree_of_below (hbound : ∀ e, bound ≠ .array e) : Agree ts := by
  intro t ht u hu htk huk
  rw [(hbelow t ht).eq_of_not_array hbound htk, (hbelow u hu).eq_of_not_array hbound huk]

/-- Types that agree join to one that is below all that they are below. -/
theorem below_joinAll (hagree : Agree ts) : (joinAll ts).Below bound := by
  rw [joinAll_of_agree hagree]
  cases hf : firstKnown? ts with
  | none => exact .unknown bound
  | some t => exact hbelow t (firstKnown?_mem hf).1

end Bounded

end FieldType

/-! ## 3. Conflicts among them -/

open FieldType

section Conflict

variable {settings : InferenceSettings} {samples : List Json} {conflict : TypeConflict}

theorem mem_typesOf_of_mem {obs : List Observation} {o : Observation} (h : o ∈ obs) :
    .ofJson o.2 ∈ typesOf obs o.1 := by
  refine List.mem_map.mpr ⟨o.2, List.mem_map.mpr ⟨o, List.mem_filter.mpr ⟨h, ?_⟩, rfl⟩, rfl⟩
  exact beq_self_eq_true o.1

/-- Both types of the first conflict are types of its field, known, and not the same. -/
theorem IsFirstConflict.types {obs : List Observation} (h : IsFirstConflict obs conflict) :
    conflict.existing ∈ typesOf obs conflict.field ∧
      conflict.observed ∈ typesOf obs conflict.field ∧
      conflict.existing ≠ .unknown ∧ conflict.observed ≠ .unknown ∧
      conflict.existing ≠ conflict.observed := by
  obtain ⟨before, o, after, rfl, ⟨hfield, hobserved, hknown, hfirst, hne⟩, _⟩ := h
  obtain ⟨hmem, hk⟩ := firstKnown?_mem hfirst
  rw [hfield]
  refine ⟨?_, ?_, hk, hknown, Ne.symm hne⟩
  · rw [typesOf_append]
    exact List.mem_append_left _ hmem
  · rw [hobserved]
    exact mem_typesOf_of_mem (List.mem_append_right _ List.mem_cons_self)

theorem IsFirstConflict.not_agree {obs : List Observation} (h : IsFirstConflict obs conflict) :
    ¬ Agree (typesOf obs conflict.field) := by
  obtain ⟨hexisting, hobserved, hk, hknown, hne⟩ := h.types
  exact fun hagree => hne (hagree _ hexisting _ hobserved hk hknown)

end Conflict

namespace FieldModel

/-- **Values that leave something open conflict inside of arrays only.** Let the types of a field's
    values all be below one type other than `mixed`. If the known ones among them are equal, as they
    must be below a type that is no array, then `widen` gives the field a type below that one, which
    is not `mixed`, and no conflict under `reject` is of the field. If two of them differ, then
    `widen` gives the field the type `mixed`, there is a conflict under `reject`, and it is of this
    field if the types of all others agree. The types that such a conflict names are arrays, and one
    of them is below the other. -/
theorem conflicts_below_one_type (settings : InferenceSettings) (samples : List Json)
    (hlimit : settings.sampleLimit ≤ maxSampleLimit) {key : String} {bound : FieldType}
    (hbound : bound ≠ .mixed) :
    let obs := observations settings (samples.take settings.sampleLimit)
    let types := typesOf obs key
    let rejecting := ofJson settings reject (.arr samples)
    let widening := ofJson settings (widen : MergeStrategy (Except TypeConflict)) (.arr samples)
    (∀ t ∈ types, t.Below bound) →
    ((∀ e, bound ≠ .array e) → Agree types) ∧
    (∃ model, widening = .ok (.ok model) ∧ ∀ f, model.get? key = some f →
      (Agree types → f.type.Below bound ∧ f.type ≠ .mixed) ∧
      (¬ Agree types → f.type = .mixed)) ∧
    (¬ Agree types → ∃ conflict, rejecting = .ok (.error conflict) ∧
      ((∀ other, other ≠ key → Agree (typesOf obs other)) → conflict.field = key)) ∧
    (∀ conflict, rejecting = .ok (.error conflict) → conflict.field = key →
      ¬ Agree types ∧ conflict.existing ≠ conflict.observed ∧
      (∃ e e', conflict.existing = .array e ∧ conflict.observed = .array e' ∧
        (e.Below e' ∨ e'.Below e))) := by
  intro obs types rejecting widening hbelow
  have hrejecting : rejecting =
      .ok (ofSamples settings reject (samples.take settings.sampleLimit)) :=
    ofJson_eq_ofSamples reject (Or.inl rfl) hlimit
  obtain ⟨widened, hwidened⟩ :=
    ofSamples_widen (ε := TypeConflict) settings (samples.take settings.sampleLimit)
  have hwidening : widening = .ok (.ok widened) := by
    rw [← hwidened]
    exact ofJson_eq_ofSamples widen (Or.inl rfl) hlimit
  have hfirst : ∀ conflict, rejecting = .ok (.error conflict) → IsFirstConflict obs conflict := by
    intro conflict h
    rw [hrejecting] at h
    exact isFirstConflict_of_ofSamples_reject (Except.ok.inj h)
  refine ⟨agree_of_below hbelow, ⟨widened, hwidening, fun f hf => ?_⟩, fun hnot => ?_,
    fun conflict hconflict hfield => ?_⟩
  · rw [type_widen (describes_of_ok hwidened) hf]
    refine ⟨fun hagree => ?_, joinAll_of_not_agree⟩
    have hjoin : (joinAll types).Below bound := below_joinAll hbelow hagree
    exact ⟨hjoin, hjoin.ne_mixed hbound⟩
  · cases hr : ofSamples settings reject (samples.take settings.sampleLimit) with
    | ok model => exact absurd (agree_of_ofSamples_reject hr key) hnot
    | error conflict =>
      have hconflict : rejecting = .ok (.error conflict) := by rw [hrejecting, hr]
      refine ⟨conflict, hconflict, fun hothers => Classical.byContradiction fun hne => ?_⟩
      exact (hfirst conflict hconflict).not_agree (hothers _ hne)
  · have hfirst := hfirst conflict hconflict
    obtain ⟨hexisting, hobserved, hk, hknown, hne⟩ := hfirst.types
    have hnot := hfirst.not_agree
    rw [hfield] at hexisting hobserved hnot
    exact ⟨hnot, hne, (hbelow _ hexisting).arrays_of_ne (hbelow _ hobserved) hk hknown hne⟩

/-- An empty list, and then one of texts. -/
def emptyThenText : List Json := [.obj [("a", .arr [])], .obj [("a", .arr [.str "x"])]]

theorem below_emptyThenText : ∀ t ∈ typesOf (observations .standard emptyThenText) "a",
    t.Below (.array (.scalar .string)) := by
  have htypes : typesOf (observations .standard emptyThenText) "a" =
      [.array .unknown, .array (.scalar .string)] := by decide
  rw [htypes]
  simp [Below.array, Below.unknown, Below.refl]

theorem conflicts_below_one_type_emptyThenText :
    InferenceSettings.standard.sampleLimit ≤ maxSampleLimit ∧
    FieldType.array (.scalar .string) ≠ .mixed ∧
    ¬ Agree (typesOf (observations .standard emptyThenText) "a") ∧
    (∃ conflict, ofJson .standard reject (.arr emptyThenText) = .ok (.error conflict)) := by
  have hlimit : InferenceSettings.standard.sampleLimit ≤ maxSampleLimit := by decide
  have hbound : FieldType.array (.scalar .string) ≠ .mixed := by decide
  have hnot : ¬ Agree (typesOf (observations .standard emptyThenText) "a") := by decide
  obtain ⟨_, _, hconflict, _⟩ :=
    conflicts_below_one_type .standard emptyThenText hlimit hbound below_emptyThenText
  obtain ⟨conflict, hreject, _⟩ := hconflict hnot
  exact ⟨hlimit, hbound, hnot, conflict, hreject⟩

/-- **An empty list and a list of texts are a conflict**, and the message names one type twice. -/
theorem emptyThenText_conflicts :
    (∀ t ∈ typesOf (observations .standard emptyThenText) "a",
      t.Below (.array (.scalar .string))) ∧
    (∃ model f, ofJson .standard (widen : MergeStrategy (Except TypeConflict))
        (.arr emptyThenText) = .ok (.ok model) ∧ model.get? "a" = some f ∧ f.type = .mixed) ∧
    ∃ conflict, ofJson .standard reject (.arr emptyThenText) = .ok (.error conflict) ∧
      conflict.field = "a" ∧
      conflict.message = "Conflicting types for field 'a': [String] vs [String]" :=
  ⟨below_emptyThenText, ⟨_, _, rfl, rfl, rfl⟩, _, rfl, rfl, by decide⟩

end FieldModel

end SampleSchema
