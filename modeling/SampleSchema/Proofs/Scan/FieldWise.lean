import SampleSchema.Proofs.Json.DistinctKeys
import SampleSchema.Proofs.Scan.Steps

/-!
# The model of a scan is the model read field by field

`FieldModel.Describes` is what a model says of samples, and every model that a scan gives says it
(`FieldModel.describes_of_ok`); what follows about models, follows from that. The main statement is
`FieldModel.ofJson_eq_fieldwise`: one pass over the samples and one look at each field give the same
model or the same error, with the same calls of the strategy.

An object is a dictionary, so each of its keys stands there once (`nodup_keys_of_read` for samples
that were read from a text). The number of values of a field is then the number of documents that
have the field (`length_valuesOf_observations`).
-/

namespace SampleSchema

/-! ## 1. Counting documents -/

/-- The documents of a value that was read from a text hold each key once. -/
theorem nodup_keys_of_read {cs : List Char} {v : Json} (h : Json.read cs = .ok v)
    {samples : List Json} (hv : v = .arr samples ∨ v.isObject = true ∧ samples = [v]) :
    ∀ ms ∈ documents samples, (Entries.keys ms).Nodup := by
  have hdictionary := Json.isDictionary_of_read h
  have hsamples : ∀ u ∈ samples, u.IsDictionary := by
    rcases hv with rfl | ⟨_, rfl⟩
    · cases hdictionary with
      | arr hitems => exact hitems
    · intro u hu
      rw [List.mem_singleton.mp hu]
      exact hdictionary
  intro ms hms
  obtain ⟨u, hu, hsome⟩ := List.mem_filterMap.mp hms
  cases hsamples u hu with
  | obj hkeys _ =>
    cases hsome
    exact hkeys
  | _ => cases hsome

theorem length_valuesOf_members {settings : InferenceSettings} {key : String}
    (hkey : key ∉ settings.reservedKeys) {ms : List (String × Json)}
    (hms : (Entries.keys ms).Nodup) :
    (valuesOf (ms.filter fun e => !settings.reservedKeys.contains e.1) key).length =
      if key ∈ Entries.keys ms then 1 else 0 := by
  have hfilter : (ms.filter fun e => !settings.reservedKeys.contains e.1).filter (·.1 == key) =
      ms.filter (·.1 == key) := by
    rw [List.filter_filter]
    refine List.filter_congr fun e _ => ?_
    by_cases he : e.1 = key
    · simp [he, hkey]
    · simp [he]
  unfold valuesOf
  rw [hfilter, List.length_map, ← List.countP_eq_length_filter, ← hms.count]
  unfold Entries.keys List.count
  rw [List.countP_map]
  rfl

/-- **A field has as many values as documents have the field.** -/
theorem length_valuesOf_observations {settings : InferenceSettings} {samples : List Json}
    {key : String} (hkey : key ∉ settings.reservedKeys)
    (hkeys : ∀ ms ∈ documents samples, (Entries.keys ms).Nodup) :
    (valuesOf (observations settings samples) key).length =
      (documents samples).countP (key ∈ Entries.keys ·) := by
  unfold observations
  revert hkeys
  generalize documents samples = docs
  intro hkeys
  induction docs with
  | nil => rfl
  | cons ms docs ih =>
    rw [List.flatMap_cons, valuesOf_append, List.length_append,
      length_valuesOf_members hkey (hkeys ms List.mem_cons_self),
      ih fun other h => hkeys other (List.mem_cons_of_mem _ h), List.countP_cons, Nat.add_comm]
    simp

/-! ## 2. What a model says of samples -/

/-- **What a model says of samples besides its types.** -/
structure FieldModel.Outlines (settings : InferenceSettings) (samples : List Json)
    (model : FieldModel) : Prop where
  examined : model.examined = (documents samples).length
  keys : model.keys = fieldKeys (observations settings samples)
  field : ∀ key f, model.get? key = some f →
    f.name = key ∧
    f.required = Scan.isRequired settings model.examined
      (valuesOf (observations settings samples) key).length ∧
    f.samples =
      (valuesOf (observations settings samples) key).take settings.sampleValueLimit

/-- **A model says of samples what their observations say.** -/
structure FieldModel.Describes {ε : Type} (settings : InferenceSettings)
    (merge : MergeStrategy (Except ε)) (samples : List Json) (model : FieldModel) : Prop where
  examined : model.examined = (documents samples).length
  keys : model.keys = fieldKeys (observations settings samples)
  field : ∀ key f, model.get? key = some f →
    heldType merge key (typesOf (observations settings samples) key) = .ok f.type ∧
    f.name = key ∧
    f.required = Scan.isRequired settings model.examined
      (valuesOf (observations settings samples) key).length ∧
    f.samples =
      (valuesOf (observations settings samples) key).take settings.sampleValueLimit

theorem nodup_fieldKeys (obs : List Observation) : (fieldKeys obs).Nodup := by
  induction obs using List.reverseRecOn with
  | nil => exact List.nodup_nil
  | append_singleton obs o ih =>
    rw [fieldKeys_append_singleton]
    split
    · exact ih
    · rename_i hk
      refine List.nodup_append.mpr ⟨ih, by simp, fun a ha b hb hab => hk ?_⟩
      rw [← List.mem_singleton.mp hb, ← hab]
      exact ha

section Outlines

variable {settings : InferenceSettings} {samples : List Json} {model : FieldModel}
  (hO : FieldModel.Outlines settings samples model)
include hO

theorem FieldModel.Outlines.nodup_keys : model.keys.Nodup := by
  rw [hO.keys]
  exact nodup_fieldKeys _

/-- A model has a field for every key that is met. -/
theorem FieldModel.Outlines.get?_eq_none_iff (key : String) :
    model.get? key = none ↔ key ∉ fieldKeys (observations settings samples) := by
  rw [← hO.keys]
  exact Entries.get?_eq_none_iff model.fields key

theorem FieldModel.Outlines.exists_field {key : String}
    (hk : key ∈ fieldKeys (observations settings samples)) : ∃ f, model.get? key = some f := by
  cases h : model.get? key with
  | none => exact absurd hk ((hO.get?_eq_none_iff key).mp h)
  | some f => exact ⟨f, rfl⟩

theorem FieldModel.Outlines.met {key : String} {f : Field} (hf : model.get? key = some f) :
    key ∈ fieldKeys (observations settings samples) :=
  hO.keys ▸ Entries.mem_keys_of_get? hf

/-- A scan names every field after its key. -/
theorem FieldModel.Outlines.name_eq {e : String × Field} (he : e ∈ model.fields) :
    e.2.name = e.1 :=
  (hO.field e.1 e.2 ((Entries.get?_eq_some_iff hO.nodup_keys e.1 e.2).mpr he)).1

end Outlines

section Describes

variable {ε : Type} {settings : InferenceSettings} {merge : MergeStrategy (Except ε)}
  {samples : List Json} {model : FieldModel}

theorem Scan.get?_model (scan : Scan) (key : String) :
    (scan.model settings).get? key =
      (Entries.get? scan.tallies key).map (fieldOf settings scan.examined key) :=
  Entries.get?_map (fieldOf settings scan.examined) scan.tallies key

theorem Scan.keys_model (scan : Scan) :
    (scan.model settings).keys = Entries.keys scan.tallies :=
  Entries.keys_map (fieldOf settings scan.examined) scan.tallies

/-- A scan gives the model of its observations, or their error. -/
theorem FieldModel.ofSamples_eq {m : Type → Type} [Monad m] [LawfulMonad m]
    (settings : InferenceSettings) (merge : MergeStrategy m) (samples : List Json) :
    FieldModel.ofSamples settings merge samples =
      (fun scan : Scan =>
        ({ scan with examined := (documents samples).length } : Scan).model settings) <$>
        Scan.ofObservations settings merge (observations settings samples) := by
  unfold FieldModel.ofSamples
  rw [Scan.run_eq]
  simp only [bind_pure_comp, Functor.map_map]

/-- What a scan that follows observations says of samples. -/
theorem Scan.describes_of_follows {scan : Scan}
    (hF : scan.Follows settings merge (observations settings samples)) :
    FieldModel.Describes settings merge samples
      (({ scan with examined := (documents samples).length } : Scan).model settings) where
  examined := rfl
  keys := by
    rw [Scan.keys_model]
    exact hF.keys
  field key f h := by
    rw [Scan.get?_model] at h
    obtain ⟨t, ht, rfl⟩ := Option.map_eq_some_iff.mp h
    refine ⟨hF.type key t ht, rfl, ?_, hF.samples key t ht⟩
    show isRequired settings _ t.count = _
    rw [hF.count key t ht]
    rfl

/-- **Every model that a scan gives says of the samples what their observations say.** -/
theorem FieldModel.describes_of_ok (h : FieldModel.ofSamples settings merge samples = .ok model) :
    FieldModel.Describes settings merge samples model := by
  rw [FieldModel.ofSamples_eq] at h
  cases hs : Scan.ofObservations settings merge (observations settings samples) with
  | error e => rw [hs] at h; cases h
  | ok scan =>
    rw [hs] at h
    cases h
    exact Scan.describes_of_follows (Scan.follows_of_ok hs)

theorem FieldModel.Describes.outlines (hD : FieldModel.Describes settings merge samples model) :
    FieldModel.Outlines settings samples model :=
  ⟨hD.examined, hD.keys, fun key f hf => (hD.field key f hf).2⟩

theorem FieldModel.Describes.nodup_keys (hD : FieldModel.Describes settings merge samples model) :
    model.keys.Nodup :=
  hD.outlines.nodup_keys

theorem FieldModel.Describes.get?_eq_none_iff
    (hD : FieldModel.Describes settings merge samples model) (key : String) :
    model.get? key = none ↔ key ∉ fieldKeys (observations settings samples) :=
  hD.outlines.get?_eq_none_iff key

theorem FieldModel.Describes.exists_field
    (hD : FieldModel.Describes settings merge samples model) {key : String}
    (hk : key ∈ fieldKeys (observations settings samples)) : ∃ f, model.get? key = some f :=
  hD.outlines.exists_field hk

theorem FieldModel.Describes.met
    (hD : FieldModel.Describes settings merge samples model) {key : String} {f : Field}
    (hf : model.get? key = some f) : key ∈ fieldKeys (observations settings samples) :=
  hD.outlines.met hf

/-- No field has a reserved key. -/
theorem FieldModel.Describes.not_reserved
    (hD : FieldModel.Describes settings merge samples model) {key : String} {f : Field}
    (hf : model.get? key = some f) : key ∉ settings.reservedKeys := by
  obtain ⟨o, ho, rfl⟩ := List.mem_map.mp (mem_fieldKeys.mp (hD.met hf))
  exact not_reserved_of_mem_observations ho

/-- **What a model says of samples is all there is to it**: two strategies under which every field
    holds the same type give the same model. -/
theorem FieldModel.Describes.eq_of_heldType {ε' : Type} {merge' : MergeStrategy (Except ε')}
    {model' : FieldModel} (hD : FieldModel.Describes settings merge samples model)
    (hD' : FieldModel.Describes settings merge' samples model')
    (h : ∀ key t, heldType merge key (typesOf (observations settings samples) key) = .ok t →
      heldType merge' key (typesOf (observations settings samples) key) = .ok t) :
    model = model' := by
  have hget : ∀ key f, model.get? key = some f → model'.get? key = some f := by
    intro key f hf
    obtain ⟨f', hf'⟩ := hD'.exists_field (hD.met hf)
    obtain ⟨htype, hname, hrequired, hsamples⟩ := hD.field key f hf
    obtain ⟨htype', hname', hrequired', hsamples'⟩ := hD'.field key f' hf'
    rw [hf']
    show some (⟨f'.name, f'.type, f'.required, f'.samples⟩ : Field) =
      some ⟨f.name, f.type, f.required, f.samples⟩
    have hsame : f'.type = f.type := by
      rw [h key f.type htype] at htype'
      exact (Except.ok.inj htype').symm
    rw [hname, hname', hsamples, hsamples', hrequired, hrequired', hD.examined, hD'.examined,
      hsame]
  have hlist : ∀ {ε : Type} {merge : MergeStrategy (Except ε)} {model : FieldModel},
      FieldModel.Describes settings merge samples model →
      (∀ key f, model.get? key = some f → model'.get? key = some f) →
      model.fields = (fieldKeys (observations settings samples)).map fun key =>
        (key, (model'.get? key).getD ⟨key, .unknown, false, []⟩) := by
    intro _ _ model hD hget
    rw [← hD.keys]
    refine Entries.eq_map_keys hD.nodup_keys _ fun key f hf => ?_
    rw [hget key f hf]
    rfl
  show (⟨model.fields, model.examined⟩ : FieldModel) = ⟨model'.fields, model'.examined⟩
  rw [hlist hD hget, hlist hD' fun _ _ hf => hf, hD.examined, hD'.examined]

end Describes

/-! ## 3. Both readings of samples agree -/

section Agree

variable {ε : Type} {settings : InferenceSettings} {merge : MergeStrategy (Except ε)}
  {samples : List Json} {model : FieldModel}

/-- A field of a model is the field that its own observations make. -/
theorem FieldModel.Describes.ofObservations_eq
    (hD : FieldModel.Describes settings merge samples model)
    (hkeys : ∀ ms ∈ documents samples, (Entries.keys ms).Nodup) {key : String} {f : Field}
    (hf : model.get? key = some f) : Field.ofObservations settings merge samples key = .ok f := by
  obtain ⟨htype, hname, hrequired, hsamples⟩ := hD.field key f hf
  rw [length_valuesOf_observations (hD.not_reserved hf) hkeys, hD.examined] at hrequired
  simp only [Field.ofObservations, htype]
  show Except.ok (⟨key, f.type, _, _⟩ : Field) = .ok ⟨f.name, f.type, f.required, f.samples⟩
  rw [hname, hrequired, hsamples]
  rfl

/-- **One pass and one look at each field agree**, in the model and in the error. -/
theorem FieldModel.ofSamples_eq_fieldwise (settings : InferenceSettings)
    (merge : MergeStrategy (Except ε))
    (hkeys : ∀ ms ∈ documents samples, (Entries.keys ms).Nodup) :
    FieldModel.ofSamples settings merge samples =
      FieldModel.fieldwise settings merge samples := by
  have hrun := FieldModel.ofSamples_eq settings merge samples
  rcases Scan.ofObservations_answers settings merge (observations settings samples) with
    ⟨scan, ts, hs, hts⟩ | ⟨e, hs, hts⟩
  · rw [hs] at hrun
    have hD : FieldModel.Describes settings merge samples _ :=
      Scan.describes_of_follows (Scan.follows_of_ok hs)
    obtain ⟨model, hmodel⟩ :
        ∃ model, model = Scan.model settings
          { scan with examined := (documents samples).length } := ⟨_, rfl⟩
    rw [← hmodel] at hD
    -- every key of the model reads off its own field, so the list of fields is the one read
    have hread : ∀ key ∈ fieldKeys (observations settings samples),
        (Field.ofObservations settings merge samples key).map (fun f => (key, f)) =
          .ok (key, (model.get? key).getD { name := key, type := .unknown }) := by
      intro key hk
      obtain ⟨f, hf⟩ := hD.exists_field hk
      rw [hD.ofObservations_eq hkeys hf, hf]
      rfl
    have hfields : model.fields = (fieldKeys (observations settings samples)).map fun key =>
        (key, (model.get? key).getD { name := key, type := .unknown }) := by
      rw [← hD.keys]
      refine Entries.eq_map_keys hD.nodup_keys _ fun key f hf => ?_
      have hf' : model.get? key = some f := hf
      rw [hf']
      rfl
    have hfieldwise : FieldModel.fieldwise settings merge samples = .ok model := by
      simp only [FieldModel.fieldwise, hts, mapM_eq_pure_map hread, ← hfields, ← hD.examined]
      rfl
    rw [hrun, hfieldwise, hmodel]
    rfl
  · rw [hs] at hrun
    simp only [FieldModel.fieldwise, hrun, hts]
    rfl

/-- A strategy that keeps a list of its calls gives the same model or error, and the calls. -/
theorem FieldModel.ofSamples_recorded (settings : InferenceSettings)
    (merge : MergeStrategy (Except ε)) (samples : List Json) :
    (FieldModel.ofSamples settings (recorded merge) samples).run.run [] =
      (FieldModel.ofSamples settings merge samples,
        madeCalls merge (callsOf merge (observations settings samples))) := by
  rw [FieldModel.ofSamples_eq, FieldModel.ofSamples_eq, ExceptT.run_map, StateT.run_map,
    Scan.ofObservations_recorded]
  rfl

/-- **Without an error there is one call for every observation but the first of each field.** -/
theorem length_callsOf {obs : List Observation} {scan : Scan}
    (h : Scan.ofObservations settings merge obs = .ok scan) :
    (callsOf merge obs).length + (fieldKeys obs).length = obs.length := by
  induction obs using List.reverseRecOn generalizing scan with
  | nil => rfl
  | append_singleton obs o ih =>
    rw [Scan.ofObservations_append_singleton] at h
    cases hs : Scan.ofObservations settings merge obs with
    | error e => rw [hs] at h; cases h
    | ok before =>
      have hF := Scan.follows_of_ok hs
      have hcount := ih hs
      rw [callsOf_append_singleton, fieldKeys_append_singleton, ← Scan.call?_of_follows hF,
        List.length_append, List.length_append, List.length_singleton]
      unfold Scan.call?
      cases hg : Entries.get? before.tallies o.1 with
      | none =>
        rw [if_neg ((hF.get?_eq_none_iff o.1).mp hg), List.length_append, List.length_singleton]
        simp only [Option.map_none, Option.toList_none, List.length_nil]
        omega
      | some t =>
        rw [if_pos (hF.met hg)]
        simp only [Option.map_some, Option.toList_some, List.length_singleton]
        omega

/-- The samples of an object are the object, those of an array its elements. -/
theorem examinable_eq_ok {v : Json}
    (hv : v = .arr samples ∨ v.isObject = true ∧ samples = [v])
    (hlimit : settings.sampleLimit ≤ maxSampleLimit) :
    v.examinable settings = .ok (samples.take settings.sampleLimit) := by
  have hsamples : v.samples? = .ok samples := by
    rcases hv with rfl | ⟨hobj, rfl⟩
    · rfl
    · cases v <;> first | rfl | cases hobj
  unfold JsonOf.examinable
  rw [if_neg (by omega), hsamples]

/-- The model of a value is the model of its first samples. -/
theorem FieldModel.ofJson_eq_ofSamples {m : Type → Type} [Monad m] (merge : MergeStrategy m)
    {v : Json} (hv : v = .arr samples ∨ v.isObject = true ∧ samples = [v])
    (hlimit : settings.sampleLimit ≤ maxSampleLimit) :
    FieldModel.ofJson settings merge v =
      .ok (FieldModel.ofSamples settings merge (samples.take settings.sampleLimit)) := by
  unfold FieldModel.ofJson
  rw [examinable_eq_ok hv hlimit]

/-- Samples that were scanned can be counted. -/
theorem FieldModel.sampleLimit_le_of_ofJson {m : Type → Type} [Monad m] {merge : MergeStrategy m}
    {v : Json} {run : m FieldModel} (h : FieldModel.ofJson settings merge v = .ok run) :
    settings.sampleLimit ≤ maxSampleLimit := by
  refine Nat.le_of_not_lt fun hlt => ?_
  unfold FieldModel.ofJson JsonOf.examinable at h
  rw [if_pos hlt] at h
  cases h

/-- What a scan of a value gives, the scan of its first samples gives. -/
theorem FieldModel.ofSamples_of_ofJson {m : Type → Type} [Monad m] {merge : MergeStrategy m}
    {v : Json} (hv : v = .arr samples ∨ v.isObject = true ∧ samples = [v]) {run : m FieldModel}
    (h : FieldModel.ofJson settings merge v = .ok run) :
    FieldModel.ofSamples settings merge (samples.take settings.sampleLimit) = run := by
  rw [FieldModel.ofJson_eq_ofSamples merge hv (FieldModel.sampleLimit_le_of_ofJson h)] at h
  exact Except.ok.inj h

end Agree

/-- **The model of a value's samples, field by field.** Of an array the first elements are looked
    at, an object is the one sample. The pass ends as the field-by-field reading does; the strategy
    is called for the observations that repeat a field, in their order and up to the first error,
    with the type that the field holds by then; and without an error it is called once for each. -/
theorem FieldModel.ofJson_eq_fieldwise {ε : Type} (settings : InferenceSettings)
    (merge : MergeStrategy (Except ε)) {v : Json} {samples : List Json}
    (hv : v = .arr samples ∨ v.isObject = true ∧ samples = [v])
    (hlimit : settings.sampleLimit ≤ maxSampleLimit)
    (hkeys : ∀ ms ∈ documents (samples.take settings.sampleLimit), (Entries.keys ms).Nodup) :
    let looked := samples.take settings.sampleLimit
    let obs := observations settings looked
    let reference := FieldModel.fieldwise settings merge looked
    FieldModel.ofJson settings merge v = .ok reference ∧
    (FieldModel.ofJson settings (recorded merge) v).map (fun run => run.run.run []) =
      .ok (reference, madeCalls merge (callsOf merge obs)) ∧
    (∀ model, reference = .ok model →
      madeCalls merge (callsOf merge obs) = callsOf merge obs ∧
      (callsOf merge obs).length + (fieldKeys obs).length = obs.length) := by
  intro looked obs reference
  have hreference : FieldModel.ofSamples settings merge looked = reference :=
    FieldModel.ofSamples_eq_fieldwise settings merge hkeys
  refine ⟨?_, ?_, fun model hmodel => ?_⟩
  · rw [FieldModel.ofJson_eq_ofSamples merge hv hlimit, hreference]
  · rw [FieldModel.ofJson_eq_ofSamples (recorded merge) hv hlimit]
    show Except.ok ((FieldModel.ofSamples settings (recorded merge) looked).run.run []) = _
    rw [FieldModel.ofSamples_recorded, hreference]
  · rw [hmodel, FieldModel.ofSamples_eq] at hreference
    rcases Scan.ofObservations_answers settings merge obs with ⟨scan, ts, hs, hts⟩ | ⟨e, hs, _⟩
    · exact ⟨madeCalls_of_ok hts, length_callsOf hs⟩
    · rw [hs] at hreference
      cases hreference

/-- Samples that disagree: a null and an integer go together, a truth value does not. The second is
    no document, and the last is not looked at by a strategy that gives up before it. -/
def conflictingSamples : List Json :=
  [.obj [("_id", .int 7), ("n", .null)], .bool true, .obj [("n", .int 1), ("m", .null)],
    .obj [("m", .bool true), ("n", .bool false)], .obj [("m", .arr [])]]

theorem FieldModel.ofJson_eq_fieldwise_conflictingSamples :
    (∀ ms ∈ documents (conflictingSamples.take 10), (Entries.keys ms).Nodup) ∧
    FieldModel.ofJson .standard reject (.arr conflictingSamples) =
      .ok (.error ⟨"n", .scalar .int, .scalar .boolean⟩) ∧
    (FieldModel.ofJson .standard (recorded reject) (.arr conflictingSamples)).map
        (fun run => run.run.run []) =
      .ok (.error ⟨"n", .scalar .int, .scalar .boolean⟩,
        [⟨"n", .unknown, .scalar .int⟩, ⟨"m", .unknown, .scalar .boolean⟩,
          ⟨"n", .scalar .int, .scalar .boolean⟩]) := by
  have hkeys : ∀ ms ∈ documents (conflictingSamples.take 10), (Entries.keys ms).Nodup := by decide
  have h := FieldModel.ofJson_eq_fieldwise .standard reject (Or.inl rfl) (by decide) hkeys
  exact ⟨hkeys, h.1, h.2.1⟩

end SampleSchema
