import SampleSchema.Proofs.Scan.Answers
import SampleSchema.Proofs.Scan.Required

/-!
# How the mark of a field moves

A field is required if its share of the documents, rounded to a double, lies above the threshold.
Rounding keeps the order of shares, so the mark moves only the way the share or the threshold does
(`Scan.isRequired_mono`, `Scan.isRequired_of_le`). One more document raises the share of its own
fields, at most to one, and lowers that of all others, and a sample that is no document changes
nothing at all. A field of a model has a share above zero and no share is above one, so the least
threshold requires every field and the greatest none. Of models `FieldModel.required_monotone` says
all of this.
-/

namespace SampleSchema

/-! ## 1. The decision -/

section Decision

variable {settings settings' : InferenceSettings} {examined count examined' count' : Nat}

/-- **A greater share is required where a smaller one is.** -/
theorem Scan.isRequired_mono (hexamined : 0 < examined) (hexamined' : 0 < examined')
    (hmost : count ≤ examined) (hmost' : count' ≤ examined')
    (hshare : count * examined' ≤ count' * examined)
    (h : Scan.isRequired settings examined count = true) :
    Scan.isRequired settings examined' count' = true :=
  Double.lt_of_lt_of_le h (Double.le_ofQuotient hexamined hexamined' hmost hmost' hshare)

/-- **What is required above a threshold is required above a lower one.** -/
theorem Scan.isRequired_of_le
    (hlower : settings'.requiredThreshold.le settings.requiredThreshold = true)
    (h : Scan.isRequired settings examined count = true) :
    Scan.isRequired settings' examined count = true :=
  Double.lt_of_le_of_lt hlower h

/-- One more document, with the field: its share grows. -/
theorem Scan.isRequired_succ (hcount : 0 < count) (hmost : count ≤ examined)
    (h : Scan.isRequired settings examined count = true) :
    Scan.isRequired settings (examined + 1) (count + 1) = true := by
  have hshare : count * (examined + 1) ≤ (count + 1) * examined := by
    rw [Nat.mul_succ, Nat.succ_mul]
    exact Nat.add_le_add_left hmost _
  exact Scan.isRequired_mono (Nat.lt_of_lt_of_le hcount hmost) examined.succ_pos hmost
    (Nat.succ_le_succ hmost) hshare h

/-- One more document, without the field: its share shrinks. -/
theorem Scan.isRequired_of_succ (hcount : 0 < count) (hmost : count ≤ examined)
    (h : Scan.isRequired settings (examined + 1) count = true) :
    Scan.isRequired settings examined count = true :=
  Scan.isRequired_mono examined.succ_pos (Nat.lt_of_lt_of_le hcount hmost)
    (Nat.le_succ_of_le hmost) hmost (Nat.mul_le_mul_left count (Nat.le_succ examined)) h

theorem maxSampleLimit_le_unitsPerOne : maxSampleLimit ≤ Magnitude.unitsPerOne := by
  obtain ⟨more, hmore⟩ : ∃ more, 63 + more = 1074 := ⟨1011, rfl⟩
  rw [Magnitude.unitsPerOne_eq hmore]
  exact Nat.le_trans (Nat.sub_le _ 1) (Nat.le_mul_of_pos_right _ (Nat.two_pow_pos more))

/-- Above a threshold of zero every field is. -/
theorem Scan.isRequired_of_zero {negative : Bool}
    (hzero : settings.requiredThreshold = .finite negative .zero) (hcount : 0 < count)
    (hmost : count ≤ examined) (hexamined : examined ≤ maxSampleLimit) :
    Scan.isRequired settings examined count = true := by
  unfold Scan.isRequired
  rw [hzero]
  exact Double.zero_lt_ofQuotient negative hcount hmost
    (Nat.le_trans hexamined maxSampleLimit_le_unitsPerOne)

/-- Above a threshold of one no field is. -/
theorem Scan.isRequired_of_one (hone : settings.requiredThreshold = .one) (hcount : 0 < count)
    (hmost : count ≤ examined) : Scan.isRequired settings examined count = false := by
  unfold Scan.isRequired
  rw [hone]
  refine Double.lt_eq_false_of_le (Double.le_ofQuotient (Nat.lt_of_lt_of_le hcount hmost)
    Nat.one_pos hmost (Nat.le_refl 1) ?_)
  rw [Nat.mul_one, Nat.one_mul]
  exact hmost

end Decision

/-! ## 2. One more sample -/

theorem take_append_singleton_cases {α : Type} (l : List α) (a : α) (n : Nat) :
    (l ++ [a]).take n = l.take n ∨ l.take n = l ∧ (l ++ [a]).take n = l ++ [a] := by
  rcases Nat.lt_or_ge l.length n with h | h
  · refine Or.inr ⟨List.take_of_length_le (Nat.le_of_lt h), List.take_of_length_le ?_⟩
    rw [List.length_append]
    exact h
  · exact Or.inl (List.take_append_of_le_length h)

section OneMore

variable {ε : Type} {settings : InferenceSettings} {merge : MergeStrategy (Except ε)}
  {samples : List Json} {model : FieldModel}

/-- Samples that differ in what is no document have the same models. -/
theorem FieldModel.ofSamples_congr {samples' : List Json} {m : Type → Type} [Monad m]
    [LawfulMonad m] (merge : MergeStrategy m) (h : documents samples = documents samples') :
    FieldModel.ofSamples settings merge samples = FieldModel.ofSamples settings merge samples' := by
  rw [FieldModel.ofSamples_eq, FieldModel.ofSamples_eq]
  unfold observations
  rw [h]

/-- **A sample that is no object changes nothing.** -/
theorem FieldModel.ofJson_append_of_not_isObject {m : Type → Type} [Monad m] [LawfulMonad m]
    (merge : MergeStrategy m) (hlimit : settings.sampleLimit ≤ maxSampleLimit) {v : Json}
    (hv : v.isObject = false) :
    FieldModel.ofJson settings merge (.arr (samples ++ [v])) =
      FieldModel.ofJson settings merge (.arr samples) := by
  rw [FieldModel.ofJson_eq_ofSamples merge (Or.inl rfl) hlimit,
    FieldModel.ofJson_eq_ofSamples merge (Or.inl rfl) hlimit]
  rcases take_append_singleton_cases samples v settings.sampleLimit with h | ⟨h, h'⟩
  · rw [h]
  · rw [h, h', FieldModel.ofSamples_congr merge]
    rw [documents_append, documents_of_not_isObject hv]
    exact List.append_nil _

/-- **One more document moves the marks** of its own fields only up, and of all others only
    down. -/
theorem FieldModel.Describes.required_append {more : FieldModel} {ms : List (String × Json)}
    (hD : FieldModel.Describes settings merge samples model)
    (hD' : FieldModel.Describes settings merge (samples ++ [.obj ms]) more)
    (hkeys : ∀ ms ∈ documents samples, (Entries.keys ms).Nodup) (hms : (Entries.keys ms).Nodup)
    {key : String} {f : Field} (hf : model.get? key = some f) :
    ∃ g, more.get? key = some g ∧
      (key ∈ Entries.keys ms → f.required = true → g.required = true) ∧
      (key ∉ Entries.keys ms → f.required = false → g.required = false) := by
  have hdocs : documents (samples ++ [.obj ms]) = documents samples ++ [ms] :=
    documents_append samples [.obj ms]
  have hkeys' : ∀ ms' ∈ documents (samples ++ [.obj ms]), (Entries.keys ms').Nodup := by
    rw [hdocs]
    intro ms' hmem
    rcases List.mem_append.mp hmem with hmem | hmem
    · exact hkeys ms' hmem
    · rw [List.mem_singleton.mp hmem]
      exact hms
  have hmet : key ∈ fieldKeys (observations settings (samples ++ [.obj ms])) := by
    rw [observations_append]
    exact List.IsPrefix.subset ( fieldKeys_prefix _ _) (hD.met hf)
  obtain ⟨g, hg⟩ := hD'.exists_field hmet
  obtain ⟨count, hcount, hpos, hmost, hrequired⟩ := hD.required_eq hkeys hf
  obtain ⟨count', hcount', -, -, hrequired'⟩ := hD'.required_eq hkeys' hg
  have hexamined : more.examined = model.examined + 1 := by
    rw [hD.examined, hD'.examined, hdocs, List.length_append, List.length_singleton]
  rw [hdocs, List.countP_append, ← hcount] at hcount'
  rw [hexamined] at hrequired'
  refine ⟨g, hg, fun hmem h => ?_, fun hmem h => ?_⟩
  · have hone : [ms].countP (key ∈ Entries.keys ·) = 1 := by simp [hmem]
    rw [hrequired] at h
    rw [hrequired', hcount', hone]
    exact Scan.isRequired_succ hpos hmost h
  · have hnone : [ms].countP (key ∈ Entries.keys ·) = 0 := by simp [hmem]
    rw [hcount', hnone, Nat.add_zero] at hrequired'
    refine Bool.eq_false_iff.mpr fun hnow => ?_
    rw [hrequired'] at hnow
    rw [hrequired, Scan.isRequired_of_succ hpos hmost hnow] at h
    cases h

end OneMore

/-! ## 3. Another threshold -/

/-- The same settings with another threshold. -/
def InferenceSettings.requiring (settings : InferenceSettings) (threshold : Double)
    (h : threshold.isShare = true) : InferenceSettings :=
  { settings with requiredThreshold := threshold, isShare_requiredThreshold := h }

section Thresholds

variable {ε : Type} {settings : InferenceSettings} {merge : MergeStrategy (Except ε)}
  {samples : List Json} {model : FieldModel}

/-- **Another threshold moves the marks**: a greater one only down, a smaller one only up. -/
theorem FieldModel.Describes.required_requiring {other : FieldModel} {threshold : Double}
    {h : threshold.isShare = true} (hD : FieldModel.Describes settings merge samples model)
    (hD' : FieldModel.Describes (settings.requiring threshold h) merge samples other)
    {key : String} {f : Field} (hf : model.get? key = some f) :
    ∃ g, other.get? key = some g ∧
      (settings.requiredThreshold.le threshold = true → f.required = false →
        g.required = false) ∧
      (threshold.le settings.requiredThreshold = true → f.required = true →
        g.required = true) := by
  obtain ⟨g, hg⟩ := hD'.exists_field (hD.met hf)
  have hrequired := (hD.field key f hf).2.2.1
  have hrequired' := (hD'.field key g hg).2.2.1
  have hexamined : other.examined = model.examined := hD'.examined.trans hD.examined.symm
  rw [hexamined] at hrequired'
  refine ⟨g, hg, fun hraised hnot => Bool.eq_false_iff.mpr fun hnow => ?_, fun hlowered hnow => ?_⟩
  · rw [hrequired'] at hnow
    rw [hrequired] at hnot
    exact Bool.noConfusion (hnot.symm.trans (Scan.isRequired_of_le hraised hnow))
  · rw [hrequired] at hnow
    rw [hrequired']
    exact Scan.isRequired_of_le hlowered hnow

/-- A field of a model under its key. -/
theorem FieldModel.Describes.exists_get? (hD : FieldModel.Describes settings merge samples model)
    {f : Field} (hf : f ∈ model.values) : ∃ key, model.get? key = some f := by
  obtain ⟨e, he, rfl⟩ := List.mem_map.mp hf
  exact ⟨e.1, (Entries.get?_eq_some_iff hD.nodup_keys e.1 e.2).mpr he⟩

end Thresholds

/-! ## 4. Models -/

section Models

variable {ε : Type} {settings : InferenceSettings} {merge : MergeStrategy (Except ε)}
  (hmerge : merge.NeverFails) (hlimit : settings.sampleLimit ≤ maxSampleLimit)
include hmerge hlimit

/-- Under a strategy without errors samples have a model. -/
theorem MergeStrategy.NeverFails.exists_describes (samples : List Json) :
    ∃ model, FieldModel.ofJson settings merge (.arr samples) = .ok (.ok model) ∧
      FieldModel.Describes settings merge (samples.take settings.sampleLimit) model := by
  obtain ⟨model, hmodel⟩ := hmerge.exists_model settings (samples.take settings.sampleLimit)
  refine ⟨model, ?_, FieldModel.describes_of_ok hmodel⟩
  rw [FieldModel.ofJson_eq_ofSamples merge (Or.inl rfl) hlimit, hmodel]

/-- One more document, in the limit of samples or behind it. -/
theorem MergeStrategy.NeverFails.required_append {samples : List Json} {model : FieldModel}
    (hmodel : FieldModel.ofJson settings merge (.arr samples) = .ok (.ok model))
    (hD : FieldModel.Describes settings merge (samples.take settings.sampleLimit) model)
    (hkeys : ∀ ms ∈ documents (samples.take settings.sampleLimit), (Entries.keys ms).Nodup)
    {ms : List (String × Json)} (hms : (Entries.keys ms).Nodup) :
    ∃ more, FieldModel.ofJson settings merge (.arr (samples ++ [.obj ms])) = .ok (.ok more) ∧
      ∀ key f, model.get? key = some f → ∃ g, more.get? key = some g ∧
        (key ∈ Entries.keys ms → f.required = true → g.required = true) ∧
        (key ∉ Entries.keys ms → f.required = false → g.required = false) := by
  rcases take_append_singleton_cases samples (.obj ms) settings.sampleLimit with h | ⟨h, h'⟩
  · refine ⟨model, ?_, fun key f hf => ⟨f, hf, fun _ => id, fun _ => id⟩⟩
    rw [FieldModel.ofJson_eq_ofSamples merge (Or.inl rfl) hlimit] at hmodel ⊢
    rw [h]
    exact hmodel
  · obtain ⟨more, hmore, hD'⟩ := hmerge.exists_describes hlimit (samples ++ [.obj ms])
    rw [h] at hD hkeys
    rw [h'] at hD'
    exact ⟨more, hmore, fun key f hf => hD.required_append hD' hkeys hms hf⟩

end Models

/-- **The mark of a field moves with its share and against the threshold.** Under a strategy without
    errors, as `keepFirst` and `widen` are, samples have a model if their limit is a count, and of
    any such model: with one more document, what it has stays required and what it has not stays
    optional; with one more sample that is no document, the model stays as it is; above a greater
    threshold what is optional stays so, and above a smaller one what is required; above zero every
    field is required, and above one none. -/
theorem FieldModel.required_monotone {ε : Type} {settings : InferenceSettings}
    {merge : MergeStrategy (Except ε)} (hmerge : merge.NeverFails) {samples : List Json}
    (hkeys : ∀ ms ∈ documents (samples.take settings.sampleLimit), (Entries.keys ms).Nodup) :
    let analysed := fun settings samples => FieldModel.ofJson settings merge (.arr samples)
    (settings.sampleLimit ≤ maxSampleLimit →
      ∃ model, analysed settings samples = .ok (.ok model)) ∧
    ∀ model, analysed settings samples = .ok (.ok model) →
      (∀ ms, (Entries.keys ms).Nodup →
        ∃ more, analysed settings (samples ++ [.obj ms]) = .ok (.ok more) ∧
          ∀ key f, model.get? key = some f → ∃ g, more.get? key = some g ∧
            (key ∈ Entries.keys ms → f.required = true → g.required = true) ∧
            (key ∉ Entries.keys ms → f.required = false → g.required = false)) ∧
      (∀ v, v.isObject = false → analysed settings (samples ++ [v]) = .ok (.ok model)) ∧
      (∀ threshold (h : threshold.isShare = true),
        ∃ other, analysed (settings.requiring threshold h) samples = .ok (.ok other) ∧
          ∀ key f, model.get? key = some f → ∃ g, other.get? key = some g ∧
            (settings.requiredThreshold.le threshold = true → f.required = false →
              g.required = false) ∧
            (threshold.le settings.requiredThreshold = true → f.required = true →
              g.required = true)) ∧
      ((∃ negative, settings.requiredThreshold = .finite negative .zero) →
        ∀ f ∈ model.values, f.required = true) ∧
      (settings.requiredThreshold = .one → ∀ f ∈ model.values, f.required = false) := by
  intro analysed
  refine ⟨fun hlimit => ?_, fun model hmodel => ?_⟩
  · obtain ⟨model, hmodel, -⟩ := hmerge.exists_describes hlimit samples
    exact ⟨model, hmodel⟩
  have hlimit := FieldModel.sampleLimit_le_of_ofJson hmodel
  have hD : FieldModel.Describes settings merge (samples.take settings.sampleLimit) model :=
    FieldModel.describes_of_ok (FieldModel.ofSamples_of_ofJson (Or.inl rfl) hmodel)
  -- what every mark is decided by
  have hshare : ∀ f ∈ model.values, ∃ count, 0 < count ∧ count ≤ model.examined ∧
      f.required = Scan.isRequired settings model.examined count := by
    intro f hf
    obtain ⟨key, hkey⟩ := hD.exists_get? hf
    obtain ⟨count, -, hcount⟩ := hD.required_eq hkeys hkey
    exact ⟨count, hcount⟩
  refine ⟨fun ms => hmerge.required_append hlimit hmodel hD hkeys, fun v hv => ?_,
    fun threshold h => ?_, ?_, fun hone f hf => ?_⟩
  · exact (FieldModel.ofJson_append_of_not_isObject merge hlimit hv).trans hmodel
  · have hlimit' : (settings.requiring threshold h).sampleLimit ≤ maxSampleLimit := hlimit
    obtain ⟨other, hother, hD'⟩ := hmerge.exists_describes hlimit' samples
    exact ⟨other, hother, fun key f hf => hD.required_requiring hD' hf⟩
  · rintro ⟨negative, hzero⟩ f hf
    obtain ⟨count, hpos, hmost, hrequired⟩ := hshare f hf
    have hfew : model.examined ≤ maxSampleLimit := by
      rw [hD.examined, length_documents]
      exact (List.countP_le_length.trans (List.length_take_le _ _)).trans hlimit
    exact hrequired.trans (Scan.isRequired_of_zero hzero hpos hmost hfew)
  · obtain ⟨count, hpos, hmost, hrequired⟩ := hshare f hf
    exact hrequired.trans (Scan.isRequired_of_one hone hpos hmost)

/-- Nine documents and one more. What the last one has was required and stays so, and what it has
    not was optional. -/
theorem FieldModel.required_monotone_mostlyPresent :
    let samples := mostlyPresent.drop 1
    let strategy : MergeStrategy (Except Empty) := widen
    let model : FieldModel :=
      { fields := [("a", { name := "a", type := .unknown, required := false,
                           samples := [.null, .null, .null] }),
                   ("b", { name := "b", type := .unknown, required := true,
                           samples := [.null, .null, .null] })]
        examined := 9 }
    strategy.NeverFails ∧
    (∀ ms ∈ documents (samples.take InferenceSettings.standard.sampleLimit),
      (Entries.keys ms).Nodup) ∧
    FieldModel.ofJson .standard strategy (.arr samples) = .ok (.ok model) ∧
    ∃ more, FieldModel.ofJson .standard strategy (.arr (samples ++ [.obj [("b", .bool true)]])) =
        .ok (.ok more) ∧
      (∃ f, more.get? "a" = some f ∧ f.required = false) ∧
      ∃ f, more.get? "b" = some f ∧ f.required = true := by
  intro samples strategy model
  have hkeys : ∀ ms ∈ documents (samples.take InferenceSettings.standard.sampleLimit),
      (Entries.keys ms).Nodup := by decide
  have hmodel : FieldModel.ofJson .standard strategy (.arr samples) = .ok (.ok model) := by
    have ha : Scan.isRequired .standard 9 7 = false := by decide +kernel
    have hb : Scan.isRequired .standard 9 8 = true := by decide +kernel
    show _ = Except.ok (Except.ok (⟨[("a", ⟨"a", .unknown, false, _⟩),
      ("b", ⟨"b", .unknown, true, _⟩)], 9⟩ : FieldModel))
    rw [← ha, ← hb]
    rfl
  obtain ⟨-, hmoves⟩ := FieldModel.required_monotone (neverFails_widen (ε := Empty)) hkeys
  obtain ⟨hmore, -⟩ := hmoves model hmodel
  obtain ⟨more, hanalysed, hfields⟩ := hmore [("b", .bool true)] (by decide)
  obtain ⟨f, hf, -, hnot⟩ := hfields "a" _ rfl
  obtain ⟨g, hg, hnow, -⟩ := hfields "b" _ rfl
  exact ⟨neverFails_widen, hkeys, hmodel, more, hanalysed, ⟨f, hf, hnot (by decide) rfl⟩,
    g, hg, hnow (by decide) rfl⟩

end SampleSchema
