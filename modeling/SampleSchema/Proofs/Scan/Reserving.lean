import SampleSchema.Proofs.Scan.Answers

/-!
# Fields apart from each other

What a scan finds out about a field depends on the observations of that field and on the number of
documents, and on nothing else. So there are three ways to leave the fields of some KEYS out: to
reserve the keys (`InferenceSettings.reserving`), to erase them from every document
(`JsonOf.erasing`), or to scan as before and drop the fields (`FieldModel.without`).

* `Scan.ofObservations_without`: a scan of the other observations alone is the scan of all without
  the tallies of these keys, or it ends in the same error, if the error is not of one of them;
* `FieldModel.reserving_eq_erasing`: the main statement, on all three ways and each strategy.
-/

namespace SampleSchema

/-! ## 1. Leaving keys out -/

/-- Is a key none of these? -/
def isOutside (keys : List String) (key : String) : Bool := !keys.contains key

/-- Settings under which these keys are reserved as well. -/
def InferenceSettings.reserving (settings : InferenceSettings) (keys : List String) :
    InferenceSettings :=
  { settings with reservedKeys := settings.reservedKeys ++ keys }

/-- A sample without the members of these keys; an object of which nothing is left stays one. -/
def JsonOf.erasing (keys : List String) : Json → Json
  | .obj ms => .obj (ms.filter fun e => isOutside keys e.1)
  | v => v

/-- A scan that knows nothing of these keys. -/
def Scan.without (keys : List String) (scan : Scan) : Scan :=
  { scan with tallies := scan.tallies.filter fun e => isOutside keys e.1 }

/-- A model without the fields of these keys. -/
def FieldModel.without (keys : List String) (model : FieldModel) : FieldModel :=
  { model with fields := model.fields.filter fun e => isOutside keys e.1 }

theorem isOutside_iff {keys : List String} {key : String} :
    isOutside keys key = true ↔ key ∉ keys := by
  simp [isOutside]

theorem isOutside_eq_false_iff {keys : List String} {key : String} :
    isOutside keys key = false ↔ key ∈ keys := by
  simp [isOutside]

/-! ## 2. The observations that are left -/

section Observations

variable (settings : InferenceSettings) (keys : List String) (samples : List Json)

theorem observations_reserving :
    observations (settings.reserving keys) samples =
      (observations settings samples).filter fun o => isOutside keys o.1 := by
  unfold observations
  rw [List.filter_flatMap]
  congr 1
  funext ms
  rw [List.filter_filter]
  refine List.filter_congr fun e _ => ?_
  simp [InferenceSettings.reserving, isOutside, Bool.and_comm]

theorem documents_erasing :
    documents (samples.map (.erasing keys)) =
      (documents samples).map fun ms => ms.filter fun e => isOutside keys e.1 := by
  induction samples with
  | nil => rfl
  | cons v rest ih =>
    rw [List.map_cons]
    cases v with
    | obj ms => exact congrArg (_ :: ·) ih
    | _ => exact ih

/-- **Reserving keys and erasing them leave the same observations.** -/
theorem observations_erasing :
    observations settings (samples.map (.erasing keys)) =
      observations (settings.reserving keys) samples := by
  rw [observations_reserving]
  unfold observations
  rw [documents_erasing, List.flatMap_map, List.filter_flatMap]
  congr 1
  funext ms
  rw [List.filter_filter, List.filter_filter]
  exact List.filter_congr fun e _ => Bool.and_comm _ _

theorem length_documents_erasing :
    (documents (samples.map (.erasing keys))).length = (documents samples).length := by
  rw [documents_erasing, List.length_map]

end Observations

/-! ## 3. A scan of the observations that are left -/

namespace Scan

section Step

variable (settings : InferenceSettings) (keys : List String) (scan : Scan) {o : Observation}

/-- A scan makes the same call for an observation of another key. -/
theorem call?_without (h : o.1 ∉ keys) : (scan.without keys).call? o = scan.call? o := by
  unfold call? without
  rw [Entries.get?_filter (isOutside_iff.mpr h)]

theorem holding_without (h : o.1 ∉ keys) (type : FieldType) :
    (scan.without keys).holding settings o type =
      (scan.holding settings o type).without keys := by
  have hkeep := isOutside_iff.mpr h
  unfold holding without
  dsimp only
  rw [Entries.get?_filter hkeep, Entries.put_filter hkeep]

theorem without_holding (h : o.1 ∈ keys) (type : FieldType) :
    (scan.holding settings o type).without keys = scan.without keys := by
  unfold holding without
  dsimp only
  rw [Entries.filter_put_of_false (isOutside_eq_false_iff.mpr h)]

/-- **An observation of another key** does to what is left what it does to the whole scan. -/
theorem step_without {m : Type → Type} [Monad m] [LawfulMonad m] (merge : MergeStrategy m)
    (h : o.1 ∉ keys) :
    step settings merge (scan.without keys) o =
      Scan.without keys <$> step settings merge scan o := by
  rw [step_eq, step_eq, call?_without keys scan h, Functor.map_map]
  congr 1
  funext type
  exact holding_without settings keys scan h type

variable {ε : Type} {merge : MergeStrategy (Except ε)} {settings keys scan}

/-- **An observation of one of these keys** changes nothing that is left. -/
theorem without_of_step (h : o.1 ∈ keys) {scan' : Scan}
    (hs : step settings merge scan o = .ok scan') : scan'.without keys = scan.without keys := by
  rw [step_eq] at hs
  obtain ⟨type, rfl⟩ : ∃ type, scan' = scan.holding settings o type := by
    split at hs
    · cases hs
      exact ⟨_, rfl⟩
    · rename_i c _
      cases hc : c.answer merge with
      | ok type =>
        rw [hc] at hs
        cases hs
        exact ⟨type, rfl⟩
      | error e =>
        rw [hc] at hs
        cases hs
  exact without_holding settings keys scan h type

/-- An error is the answer to the call for the observation. -/
theorem exists_call_of_step {e : ε} (hs : step settings merge scan o = .error e) :
    ∃ c : MergeCall, c.field = o.1 ∧ c.answer merge = .error e := by
  rw [step_eq] at hs
  cases hcall : scan.call? o with
  | none =>
    rw [hcall] at hs
    cases hs
  | some c =>
    obtain ⟨t, _, hc⟩ := Option.map_eq_some_iff.mp hcall
    refine ⟨c, hc ▸ rfl, ?_⟩
    rw [hcall] at hs
    dsimp only at hs
    cases ha : c.answer merge with
    | ok type =>
      rw [ha] at hs
      cases hs
    | error e' =>
      rw [ha] at hs
      cases hs
      rfl

end Step

section Run

variable {ε : Type} (settings : InferenceSettings) {merge : MergeStrategy (Except ε)}
  {keys : List String}

/-- **A scan, and the scan of the observations that are left**: the other is the one without the
    keys; or the one ends with a call that is answered by an error, and so does the other, if that
    call is of another key. -/
inductive LeavesOut (merge : MergeStrategy (Except ε)) (keys : List String) :
    Except ε Scan → Except ε Scan → Prop
  | scanned (scan : Scan) : LeavesOut merge keys (.ok scan) (.ok (scan.without keys))
  | failed {c : MergeCall} {e : ε} {rest : Except ε Scan} (hcall : c.answer merge = .error e)
      (hrest : c.field ∉ keys → rest = .error e) : LeavesOut merge keys (.error e) rest

section Observation

variable {settings} {o : Observation} {whole rest : Except ε Scan}

/-- One more observation of these keys, which is not there for the other scan. -/
theorem LeavesOut.step_of_mem (h : LeavesOut merge keys whole rest) (ho : o.1 ∈ keys) :
    LeavesOut merge keys (whole >>= fun scan => step settings merge scan o) rest := by
  cases h with
  | failed hcall hrest => exact .failed hcall hrest
  | scanned scan =>
    show LeavesOut merge keys (step settings merge scan o) _
    cases hstep : step settings merge scan o with
    | ok scan' =>
      rw [← without_of_step ho hstep]
      exact .scanned scan'
    | error e =>
      obtain ⟨c, hfield, hcall⟩ := exists_call_of_step hstep
      exact .failed hcall fun hout => absurd (hfield ▸ ho) hout

/-- One more observation of another key, for both scans. -/
theorem LeavesOut.step_of_notMem (h : LeavesOut merge keys whole rest) (ho : o.1 ∉ keys) :
    LeavesOut merge keys (whole >>= fun scan => step settings merge scan o)
      (rest >>= fun scan => step settings merge scan o) := by
  cases h with
  | failed hcall hrest =>
    refine .failed hcall fun hout => ?_
    rw [hrest hout]
    rfl
  | scanned scan =>
    show LeavesOut merge keys (step settings merge scan o)
      (step settings merge (scan.without keys) o)
    rw [step_without settings keys scan merge ho]
    cases hstep : step settings merge scan o with
    | ok scan' => exact .scanned scan'
    | error e =>
      obtain ⟨c, _, hcall⟩ := exists_call_of_step hstep
      exact .failed hcall fun _ => rfl

end Observation

/-- **A scan of the observations that are left** is the scan of all of them, without the keys,
    unless that one fails. -/
theorem ofObservations_without (obs : List Observation) :
    LeavesOut merge keys (ofObservations settings merge obs)
      (ofObservations settings merge (obs.filter fun o => isOutside keys o.1)) := by
  induction obs using List.reverseRecOn with
  | nil => exact .scanned {}
  | append_singleton obs o ih =>
    rw [List.filter_append, ofObservations_append_singleton]
    by_cases ho : o.1 ∈ keys
    · have hnone : [o].filter (fun o => isOutside keys o.1) = [] := by
        simp [isOutside_eq_false_iff.mpr ho]
      rw [hnone, List.append_nil]
      exact ih.step_of_mem ho
    · have hone : [o].filter (fun o => isOutside keys o.1) = [o] := by
        simp [isOutside_iff.mpr ho]
      rw [hone, ofObservations_append_singleton]
      exact ih.step_of_notMem ho

end Run

end Scan

/-! ## 4. Models -/

theorem Scan.model_without (settings : InferenceSettings) (keys : List String) (scan : Scan) :
    (scan.without keys).model settings = (scan.model settings).without keys := by
  unfold Scan.model Scan.without FieldModel.without
  rw [List.filter_map]
  rfl

namespace FieldModel

section Samples

variable {ε : Type} (settings : InferenceSettings) (keys : List String) (samples : List Json)

/-- **Reserving keys and erasing them give the same model**, whatever the strategy does. -/
theorem ofSamples_erasing {m : Type → Type} [Monad m] [LawfulMonad m] (merge : MergeStrategy m) :
    ofSamples settings merge (samples.map (.erasing keys)) =
      ofSamples (settings.reserving keys) merge samples := by
  rw [ofSamples_eq, ofSamples_eq, observations_erasing, length_documents_erasing]
  rfl

/-- Reserving keys drops their fields, if the scan ends with a model; and it keeps the error of a
    call for another field. -/
theorem ofSamples_reserving (merge : MergeStrategy (Except ε)) :
    (∃ model, ofSamples settings merge samples = .ok model ∧
      ofSamples (settings.reserving keys) merge samples = .ok (model.without keys)) ∨
    (∃ (c : MergeCall) (e : ε), ofSamples settings merge samples = .error e ∧
      c.answer merge = .error e ∧
      (c.field ∉ keys → ofSamples (settings.reserving keys) merge samples = .error e)) := by
  rw [ofSamples_eq, ofSamples_eq, observations_reserving]
  show (∃ model, _ ∧ _ <$> Scan.ofObservations settings merge _ = _) ∨
    ∃ c e, _ ∧ _ ∧ (_ → _ <$> Scan.ofObservations settings merge _ = _)
  have hboth : Scan.LeavesOut merge keys _ _ :=
    Scan.ofObservations_without settings (observations settings samples)
  generalize Scan.ofObservations settings merge (observations settings samples) = whole at hboth ⊢
  generalize Scan.ofObservations settings merge _ = rest at hboth ⊢
  cases hboth with
  | scanned scan =>
    exact Or.inl ⟨_, rfl, congrArg Except.ok (Scan.model_without settings keys
      { scan with examined := (documents samples).length })⟩
  | failed hcall hrest =>
    refine Or.inr ⟨_, _, rfl, hcall, fun hfield => ?_⟩
    rw [hrest hfield]
    rfl

theorem ofSamples_reserving_of_neverFails {merge : MergeStrategy (Except ε)}
    (hmerge : merge.NeverFails) :
    ofSamples (settings.reserving keys) merge samples =
      (ofSamples settings merge samples).map (without keys) := by
  rcases ofSamples_reserving settings keys samples merge with
    ⟨model, hmodel, hrest⟩ | ⟨c, e, _, hc, _⟩
  · rw [hmodel, hrest]
    rfl
  · obtain ⟨t, ht⟩ := hmerge c.field c.existing c.observed
    have hok : c.answer merge = .ok t := ht
    rw [hok] at hc
    cases hc

end Samples

/-- A list is looked at as far as the limit goes, with or without keys. -/
theorem ofJson_arr {m : Type → Type} [Monad m] (settings : InferenceSettings)
    (merge : MergeStrategy m) (samples : List Json) :
    ofJson settings merge (.arr samples) =
      if maxSampleLimit < settings.sampleLimit then .error .limitTooLarge
      else .ok (ofSamples settings merge (samples.take settings.sampleLimit)) := by
  by_cases hlimit : maxSampleLimit < settings.sampleLimit
  · rw [if_pos hlimit, ofJson_of_lt merge hlimit]
  · rw [if_neg hlimit, ofJson_eq_ofSamples merge (Or.inl rfl) (Nat.le_of_not_lt hlimit)]

/-- The conflict that `reject` answers a call with is one of the called field. -/
theorem field_of_reject {c : MergeCall} {conflict : TypeConflict}
    (h : c.answer reject = .error conflict) : conflict.field = c.field := by
  unfold MergeCall.answer reject at h
  split at h
  · cases h
  · cases h
    rfl

/-- **Keys can be reserved, erased, or left out of the model**: it is all the same. Reserving and
    erasing give the same for every strategy, errors included. Under `keepFirst` and `widen` it is
    the model of the original samples without the fields of these keys. Under `reject` that holds
    where the original samples have a model; and a conflict in a field of another key is the
    conflict of all three. -/
theorem reserving_eq_erasing (settings : InferenceSettings) (keys : List String)
    (samples : List Json) :
    let original := fun merge : MergeStrategy (Except TypeConflict) =>
      ofJson settings merge (.arr samples)
    let reserved := fun merge : MergeStrategy (Except TypeConflict) =>
      ofJson (settings.reserving keys) merge (.arr samples)
    let erased := fun merge : MergeStrategy (Except TypeConflict) =>
      ofJson settings merge (.arr (samples.map (.erasing keys)))
    (∀ merge, reserved merge = erased merge) ∧
    reserved keepFirst = (original keepFirst).map (·.map (without keys)) ∧
    reserved widen = (original widen).map (·.map (without keys)) ∧
    (∀ model, original reject = .ok (.ok model) →
      reserved reject = .ok (.ok (model.without keys))) ∧
    (∀ conflict, original reject = .ok (.error conflict) → conflict.field ∉ keys →
      reserved reject = .ok (.error conflict)) := by
  intro original reserved erased
  have hreserved : ∀ merge, reserved merge =
      if maxSampleLimit < settings.sampleLimit then .error .limitTooLarge
      else .ok (ofSamples (settings.reserving keys) merge
        (samples.take settings.sampleLimit)) := fun merge => ofJson_arr _ merge samples
  have horiginal : ∀ merge, original merge =
      if maxSampleLimit < settings.sampleLimit then .error .limitTooLarge
      else .ok (ofSamples settings merge (samples.take settings.sampleLimit)) :=
    fun merge => ofJson_arr settings merge samples
  have htotal : ∀ merge : MergeStrategy (Except TypeConflict), merge.NeverFails →
      reserved merge = (original merge).map (·.map (without keys)) := by
    intro merge hmerge
    rw [hreserved, horiginal, ofSamples_reserving_of_neverFails _ _ _ hmerge]
    split <;> rfl
  -- where the original samples give a run, so do they with the keys reserved
  have hrun : ∀ run, original reject = .ok run →
      ofSamples settings reject (samples.take settings.sampleLimit) = run ∧
      reserved reject = .ok (ofSamples (settings.reserving keys) reject
        (samples.take settings.sampleLimit)) := by
    intro run h
    have hlimit := Nat.not_lt.mpr (sampleLimit_le_of_ofJson h)
    exact ⟨ofSamples_of_ofJson (Or.inl rfl) h, (hreserved reject).trans (if_neg hlimit)⟩
  have hrest := ofSamples_reserving settings keys (samples.take settings.sampleLimit) reject
  refine ⟨fun merge => ?_, htotal _ neverFails_keepFirst, htotal _ neverFails_widen,
    fun model hmodel => ?_, fun conflict hconflict hfield => ?_⟩
  · show _ = ofJson settings merge _
    rw [hreserved, ofJson_arr, ← List.map_take, ofSamples_erasing]
  · obtain ⟨horiginal, hreserved⟩ := hrun _ hmodel
    rcases hrest with ⟨model', hmodel', hleft⟩ | ⟨c, e, herror, _⟩
    · cases hmodel'.symm.trans horiginal
      rw [hreserved, hleft]
    · cases herror.symm.trans horiginal
  · obtain ⟨horiginal, hreserved⟩ := hrun _ hconflict
    rcases hrest with ⟨model, hmodel, _⟩ | ⟨c, e, herror, hanswer, hleft⟩
    · cases hmodel.symm.trans horiginal
    · cases herror.symm.trans horiginal
      rw [hreserved, hleft (field_of_reject hanswer ▸ hfield)]

/-- The samples that disagree, with the field `m` left out. They disagree in the other one. -/
theorem reserving_eq_erasing_conflictingSamples :
    ofJson .standard reject (.arr conflictingSamples) =
      .ok (.error ⟨"n", .scalar .int, .scalar .boolean⟩) ∧
    "n" ∉ ["m"] ∧
    ofJson .standard reject (.arr (conflictingSamples.map (.erasing ["m"]))) =
      .ok (.error ⟨"n", .scalar .int, .scalar .boolean⟩) ∧
    ofJson (InferenceSettings.standard.reserving ["m"])
        (widen : MergeStrategy (Except TypeConflict)) (.arr conflictingSamples) =
      (ofJson .standard (widen : MergeStrategy (Except TypeConflict))
        (.arr conflictingSamples)).map (·.map (without ["m"])) := by
  have hreject : ofJson .standard reject (.arr conflictingSamples) =
      .ok (.error ⟨"n", .scalar .int, .scalar .boolean⟩) := by rfl
  have hn : "n" ∉ ["m"] := by decide
  obtain ⟨herased, _, hwiden, _, hconflict⟩ :=
    reserving_eq_erasing .standard ["m"] conflictingSamples
  exact ⟨hreject, hn, (herased reject).symm.trans (hconflict _ hreject hn), hwiden⟩

end FieldModel

end SampleSchema
