import SampleSchema.Proofs.Number.Order
import SampleSchema.Proofs.Scan.FieldWise

/-!
# Which fields are required

A field is required if its share of the documents lies above a threshold, and both are doubles: the
share is a rounded quotient, and a threshold such as `0.8` is not the decimal it spells. The
decision is nevertheless the exact one (`FieldModel.required_iff_share`): where the threshold is the
double nearest to `num / den`, a field of `count` among `examined` documents is required just if
`num * examined < count * den`, as long as `examined * den` is no more than `2 ^ 52`. In particular
a share that IS the threshold is never enough, on whatever side of it the threshold was rounded.
-/

namespace SampleSchema

/-! ## 1. The decision -/

section Decision

variable {settings : InferenceSettings} {examined count : Nat}

/-- **The decision in doubles is the exact one.** -/
theorem Scan.isRequired_iff {num den : Nat} (hden : 0 < den) (hshare : num ≤ den)
    (hthreshold : settings.requiredThreshold = .ofQuotient false num den) (hcount : 0 < count)
    (hmost : count ≤ examined) (hclose : examined * den ≤ 2 ^ 52) :
    Scan.isRequired settings examined count = true ↔ num * examined < count * den := by
  unfold Scan.isRequired
  rw [hthreshold]
  exact Double.lt_ofQuotient_iff hden (Nat.lt_of_lt_of_le hcount hmost) hshare hmost hclose

theorem Double.eightTenths_eq : Double.eightTenths = .ofQuotient false 4 5 := by decide +kernel

/-- Eight tenths are four fifths. -/
theorem Scan.isRequired_eightTenths_iff (hthreshold : settings.requiredThreshold = .eightTenths)
    (hcount : 0 < count) (hmost : count ≤ examined) (hexamined : examined ≤ 2 ^ 49) :
    Scan.isRequired settings examined count = true ↔ 4 * examined < 5 * count := by
  rw [Nat.mul_comm 5]
  exact Scan.isRequired_iff (by decide) (by decide) (hthreshold.trans Double.eightTenths_eq) hcount
    hmost (by omega)

end Decision

/-! ## 2. The fields of a model -/

section Model

variable {ε : Type} {settings : InferenceSettings} {merge : MergeStrategy (Except ε)}
  {samples : List Json} {model : FieldModel}

/-- What the decision about a field of a model is made from: the field was met in at least one
    document, and in no more than all of them. -/
theorem FieldModel.Describes.required_eq
    (hD : FieldModel.Describes settings merge samples model)
    (hkeys : ∀ ms ∈ documents samples, (Entries.keys ms).Nodup) {key : String} {f : Field}
    (hf : model.get? key = some f) :
    ∃ count, count = (documents samples).countP (key ∈ Entries.keys ·) ∧ 0 < count ∧
      count ≤ model.examined ∧ f.required = Scan.isRequired settings model.examined count := by
  have hlength := length_valuesOf_observations (hD.not_reserved hf) hkeys
  refine ⟨_, rfl, ?_, ?_, ?_⟩
  · rw [← hlength]
    exact List.length_pos_iff.mpr fun hnil => valuesOf_eq_nil_iff.mp hnil (hD.met hf)
  · rw [hD.examined]
    exact List.countP_le_length
  · rw [← hlength]
    exact (hD.field key f hf).2.2.1

end Model

/-- **Required is what is present in a greater share of the documents**, exactly. Let the threshold
    be the double nearest to `num / den`, which always is a threshold that settings can have. Then
    any count of documents with a field among those examined decides as the exact quotients do, and
    so does every field of every model, whatever the strategy. For the threshold where none is given
    these are four fifths. -/
theorem FieldModel.required_iff_share {ε : Type} (settings : InferenceSettings)
    (merge : MergeStrategy (Except ε)) (num den : Nat) (hden : 0 < den) (hshare : num ≤ den) :
    let threshold := Double.ofQuotient false num den
    threshold.isShare = true ∧
    (settings.requiredThreshold = threshold → ∀ examined count,
      0 < count → count ≤ examined → examined * den ≤ 2 ^ 52 →
      (Scan.isRequired settings examined count = true ↔ num * examined < count * den)) ∧
    (settings.requiredThreshold = threshold → ∀ v samples model,
      (v = .arr samples ∨ v.isObject = true ∧ samples = [v]) →
      FieldModel.ofJson settings merge v = .ok (.ok model) →
      let docs := documents (samples.take settings.sampleLimit)
      (∀ ms ∈ docs, (Entries.keys ms).Nodup) → model.examined * den ≤ 2 ^ 52 →
      model.examined = docs.length ∧
      ∀ key f, model.get? key = some f →
        (f.required = true ↔
          num * model.examined < docs.countP (key ∈ Entries.keys ·) * den)) ∧
    (settings.requiredThreshold = .eightTenths → ∀ examined count,
      0 < count → count ≤ examined → examined ≤ 2 ^ 49 →
      (Scan.isRequired settings examined count = true ↔ 4 * examined < 5 * count)) := by
  intro threshold
  refine ⟨Double.isShare_ofQuotient hden hshare, fun hthreshold examined count => ?_,
    fun hthreshold v samples model hv hmodel => ?_, fun hthreshold examined count => ?_⟩
  · exact Scan.isRequired_iff hden hshare hthreshold
  · intro docs hkeys hclose
    have hD := FieldModel.describes_of_ok (FieldModel.ofSamples_of_ofJson hv hmodel)
    refine ⟨hD.examined, fun key f hf => ?_⟩
    obtain ⟨count, hcount, hpos, hmost, hrequired⟩ := hD.required_eq hkeys hf
    rw [hrequired, ← hcount]
    exact Scan.isRequired_iff hden hshare hthreshold hpos hmost hclose
  · exact Scan.isRequired_eightTenths_iff hthreshold

/-- Ten documents. One field is in eight of them, the other in nine. -/
def mostlyPresent : List Json :=
  List.replicate 8 (.obj [("a", .null), ("b", .null)]) ++ [.obj [("b", .null)], .obj []]

theorem FieldModel.required_iff_share_mostlyPresent :
    let model : FieldModel :=
      { fields := [("a", { name := "a", type := .unknown, required := false,
                           samples := [.null, .null, .null] }),
                   ("b", { name := "b", type := .unknown, required := true,
                           samples := [.null, .null, .null] })]
        examined := 10 }
    FieldModel.ofJson .standard (keepFirst : MergeStrategy (Except Empty)) (.arr mostlyPresent) =
      .ok (.ok model) ∧
    (∀ ms ∈ documents mostlyPresent, (Entries.keys ms).Nodup) ∧ 10 * 5 ≤ 2 ^ 52 ∧
    ¬ 4 * 10 < 8 * 5 ∧ 4 * 10 < 9 * 5 := by
  intro model
  have hmodel : FieldModel.ofJson .standard (keepFirst : MergeStrategy (Except Empty))
      (.arr mostlyPresent) = .ok (.ok model) := by
    have ha : Scan.isRequired .standard 10 8 = false := by decide +kernel
    have hb : Scan.isRequired .standard 10 9 = true := by decide +kernel
    show _ = Except.ok (Except.ok (⟨[("a", ⟨"a", .unknown, false, _⟩),
      ("b", ⟨"b", .unknown, true, _⟩)], 10⟩ : FieldModel))
    rw [← ha, ← hb]
    rfl
  have hkeys : ∀ ms ∈ documents mostlyPresent, (Entries.keys ms).Nodup := by decide
  have hclose : 10 * 5 ≤ 2 ^ 52 := by decide
  obtain ⟨_, _, hfields, _⟩ := FieldModel.required_iff_share .standard
    (keepFirst : MergeStrategy (Except Empty)) 4 5 (by decide) (by decide)
  have hthreshold : InferenceSettings.standard.requiredThreshold = .ofQuotient false 4 5 := by
    decide +kernel
  obtain ⟨_, hrequired⟩ := hfields hthreshold _ _ model (Or.inl rfl) hmodel hkeys hclose
  have ha := hrequired "a" _ rfl
  have hb := hrequired "b" _ rfl
  exact ⟨hmodel, hkeys, hclose, fun h => Bool.noConfusion (ha.mpr h), hb.mp rfl⟩

end SampleSchema
