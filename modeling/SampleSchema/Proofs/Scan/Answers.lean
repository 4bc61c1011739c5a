import SampleSchema.Generation
import SampleSchema.Proofs.Scan.Conflicts
import SampleSchema.Settings

/-!
# When samples have a model

Settings bound the number of samples from above, and any bound is accepted there; a bound that is
greater than `maxSampleLimit` is no count of samples, and then nothing is looked at. The main
statement, `Generation.ofJson_answers`, says that this is the one fault of its kind: with a bound
that is a count, `keepFirst` and `widen` give a model and all texts for every list of samples and
for every object, and `reject` gives them or a conflict. The shares that decide what is required are
shares of at least one document.
-/

namespace SampleSchema

/-! ## 1. Strategies without errors -/

section NoErrors

variable {ε : Type} {merge : MergeStrategy (Except ε)}

/-- **A strategy that never answers by an error.** -/
def MergeStrategy.NeverFails (merge : MergeStrategy (Except ε)) : Prop :=
  ∀ key existing observed, ∃ t, merge key existing observed = .ok t

theorem neverFails_keepFirst : (keepFirst : MergeStrategy (Except ε)).NeverFails :=
  fun _ existing _ => ⟨existing, rfl⟩

theorem neverFails_widen : (widen : MergeStrategy (Except ε)).NeverFails :=
  fun _ existing observed => ⟨existing.join observed, rfl⟩

/-- Under such a strategy a field always holds a type. -/
theorem MergeStrategy.NeverFails.exists_heldType (h : merge.NeverFails) (key : String)
    (ts : List FieldType) : ∃ t, heldType merge key ts = .ok t := by
  induction ts using List.reverseRecOn with
  | nil => exact ⟨.unknown, rfl⟩
  | append_singleton ts t ih =>
    by_cases hts : ts = []
    · subst hts
      exact ⟨t, rfl⟩
    · obtain ⟨held, hheld⟩ := ih
      obtain ⟨u, hu⟩ := h key held t
      refine ⟨u, ?_⟩
      rw [heldType_append_singleton merge key hts, hheld]
      exact hu

/-- Under such a strategy samples have a model. -/
theorem MergeStrategy.NeverFails.exists_model (h : merge.NeverFails)
    (settings : InferenceSettings) (samples : List Json) :
    ∃ model, FieldModel.ofSamples settings merge samples = .ok model := by
  cases hmodel : FieldModel.ofSamples settings merge samples with
  | ok model => exact ⟨model, rfl⟩
  | error e =>
    rw [FieldModel.ofSamples_eq] at hmodel
    cases hscan : Scan.ofObservations settings merge (observations settings samples) with
    | ok scan =>
      rw [hscan] at hmodel
      cases hmodel
    | error e' =>
      -- an error would be the answer to the call of some observation
      obtain ⟨before, o, after, scan, _, _, herror⟩ := Scan.exists_of_error hscan
      obtain ⟨t, ht⟩ := h.exists_heldType o.1 (typesOf (before ++ [o]) o.1)
      rw [ht] at herror
      cases herror

end NoErrors

/-! ## 2. Models -/

section Models

variable {ε : Type} {settings : InferenceSettings} {merge : MergeStrategy (Except ε)}

/-- **A model with a field comes from a document.** -/
theorem FieldModel.Describes.examined_pos {samples : List Json} {model : FieldModel}
    (hD : FieldModel.Describes settings merge samples model) (hfields : model.fields ≠ []) :
    0 < model.examined := by
  rw [hD.examined]
  refine List.length_pos_iff.mpr fun hnone => hfields ?_
  have hobs : observations settings samples = [] := by
    unfold observations
    rw [hnone, List.flatMap_nil]
  have hkeys : model.keys = [] := by
    rw [hD.keys, hobs]
    rfl
  exact List.map_eq_nil_iff.mp hkeys

/-- **A bound that is no count of samples** keeps everything from being looked at. -/
theorem examinable_of_lt (hlimit : maxSampleLimit < settings.sampleLimit) (v : Json) :
    v.examinable settings = .error .limitTooLarge := by
  unfold JsonOf.examinable
  rw [if_pos hlimit]

theorem FieldModel.ofJson_of_lt {m : Type → Type} [Monad m] (merge : MergeStrategy m)
    (hlimit : maxSampleLimit < settings.sampleLimit) (v : Json) :
    FieldModel.ofJson settings merge v = .error .limitTooLarge := by
  unfold FieldModel.ofJson
  rw [examinable_of_lt hlimit]

theorem Generation.ofJson_of_lt {m : Type → Type} [Monad m] (typeName : String)
    (merge : MergeStrategy m) (hlimit : maxSampleLimit < settings.sampleLimit) (v : Json) :
    Generation.ofJson typeName settings merge v = .error .limitTooLarge := by
  unfold Generation.ofJson
  rw [examinable_of_lt hlimit]

/-- All texts for a value are the texts for its model. -/
theorem Generation.ofJson_eq {m : Type → Type} [Monad m] [LawfulMonad m] (typeName : String)
    (settings : InferenceSettings) (merge : MergeStrategy m) (v : Json) :
    Generation.ofJson typeName settings merge v =
      (FieldModel.ofJson settings merge v).map (Generation.ofModel typeName <$> ·) := by
  unfold Generation.ofJson FieldModel.ofJson
  cases v.examinable settings with
  | error fault => rfl
  | ok samples =>
    show Except.ok (Generation.ofSamples typeName settings merge samples) = .ok _
    unfold Generation.ofSamples
    rw [bind_pure_comp]

/-- The samples of a list or of an object have a model, or the strategy gave up. -/
theorem FieldModel.exists_ofJson (merge : MergeStrategy (Except ε)) {v : Json}
    (hv : (∃ samples, v = .arr samples) ∨ v.isObject = true)
    (hlimit : settings.sampleLimit ≤ maxSampleLimit) :
    ∃ samples, FieldModel.ofJson settings merge v =
      .ok (FieldModel.ofSamples settings merge samples) := by
  rcases hv with ⟨samples, hv⟩ | hv
  · exact ⟨_, FieldModel.ofJson_eq_ofSamples merge (Or.inl hv) hlimit⟩
  · exact ⟨_, FieldModel.ofJson_eq_ofSamples merge (Or.inr ⟨hv, rfl⟩) hlimit⟩

end Models

/-! ## 3. Answers -/

/-- **An answer for a value**: its model and all texts for it, the shares in it taken of at least
    one document; or else the error of the strategy. -/
def Answered {ε : Type} (typeName : String) (settings : InferenceSettings)
    (merge : MergeStrategy (Except ε)) (v : Json) : Except ε FieldModel → Prop
  | .ok model =>
    FieldModel.ofJson settings merge v = .ok (.ok model) ∧
    Generation.ofJson typeName settings merge v = .ok (.ok (.ofModel typeName model)) ∧
    (model.fields ≠ [] → 0 < model.examined)
  | .error e =>
    FieldModel.ofJson settings merge v = .ok (.error e) ∧
    Generation.ofJson typeName settings merge v = .ok (.error e)

theorem answered_of_ofJson {ε : Type} {settings : InferenceSettings}
    {merge : MergeStrategy (Except ε)} {v : Json} {samples : List Json} (typeName : String)
    (h : FieldModel.ofJson settings merge v = .ok (FieldModel.ofSamples settings merge samples)) :
    Answered typeName settings merge v (FieldModel.ofSamples settings merge samples) := by
  have hall := Generation.ofJson_eq typeName settings merge v
  cases hmodel : FieldModel.ofSamples settings merge samples with
  | ok model =>
    rw [hmodel] at h
    rw [h] at hall
    exact ⟨h, hall, (FieldModel.describes_of_ok hmodel).examined_pos⟩
  | error e =>
    rw [hmodel] at h
    rw [h] at hall
    exact ⟨h, hall⟩

/-- **Samples are answered exactly if their bound is a count of samples.** For a list of samples or
    an object and such a bound, `keepFirst` and `widen` give a model and all texts, `reject` gives
    them or a conflict; for any other bound there is neither a model nor a text, whatever the
    strategy. -/
theorem Generation.ofJson_answers (settings : InferenceSettings) (typeName : String) {v : Json}
    (hv : (∃ samples, v = .arr samples) ∨ v.isObject = true) :
    (settings.sampleLimit ≤ maxSampleLimit →
      (∃ model, Answered typeName settings
        (keepFirst : MergeStrategy (Except TypeConflict)) v (.ok model)) ∧
      (∃ model, Answered typeName settings
        (widen : MergeStrategy (Except TypeConflict)) v (.ok model)) ∧
      ((∃ model, Answered typeName settings reject v (.ok model)) ∨
        ∃ conflict, Answered typeName settings reject v (.error conflict))) ∧
    (maxSampleLimit < settings.sampleLimit →
      ∀ (m : Type → Type) [Monad m] (merge : MergeStrategy m),
        FieldModel.ofJson settings merge v = .error .limitTooLarge ∧
        Generation.ofJson typeName settings merge v = .error .limitTooLarge) := by
  refine ⟨fun hlimit => ?_, fun hlimit m _ merge => ?_⟩
  · have hanswered : ∀ merge : MergeStrategy (Except TypeConflict), ∃ samples,
        Answered typeName settings merge v (FieldModel.ofSamples settings merge samples) := by
      intro merge
      obtain ⟨samples, h⟩ := FieldModel.exists_ofJson merge hv hlimit
      exact ⟨samples, answered_of_ofJson typeName h⟩
    have hmodel : ∀ merge : MergeStrategy (Except TypeConflict), merge.NeverFails →
        ∃ model, Answered typeName settings merge v (.ok model) := by
      intro merge hmerge
      obtain ⟨samples, h⟩ := hanswered merge
      obtain ⟨model, hm⟩ := hmerge.exists_model settings samples
      rw [hm] at h
      exact ⟨model, h⟩
    refine ⟨hmodel _ neverFails_keepFirst, hmodel _ neverFails_widen, ?_⟩
    obtain ⟨samples, h⟩ := hanswered reject
    cases hr : FieldModel.ofSamples settings reject samples with
    | ok model => exact Or.inl ⟨model, hr ▸ h⟩
    | error conflict => exact Or.inr ⟨conflict, hr ▸ h⟩
  · exact ⟨FieldModel.ofJson_of_lt merge hlimit v, Generation.ofJson_of_lt typeName merge hlimit v⟩

/-- The samples that disagree have a model under `keepFirst`, and a conflict under `reject`. -/
theorem Generation.ofJson_answers_conflictingSamples :
    (∃ samples, JsonOf.arr conflictingSamples = .arr samples) ∧
    InferenceSettings.standard.sampleLimit ≤ maxSampleLimit ∧
    (∃ model, Answered "Order" .standard (keepFirst : MergeStrategy (Except TypeConflict))
      (.arr conflictingSamples) (.ok model)) ∧
    Answered "Order" .standard reject (.arr conflictingSamples)
      (.error ⟨"n", .scalar .int, .scalar .boolean⟩) := by
  have hv : ∃ samples, JsonOf.arr conflictingSamples = .arr samples := ⟨_, rfl⟩
  have hlimit : InferenceSettings.standard.sampleLimit ≤ maxSampleLimit := by decide
  obtain ⟨hfirst, _, hreject⟩ :=
    (Generation.ofJson_answers .standard "Order" (Or.inl hv)).1 hlimit
  have hconflict : FieldModel.ofJson .standard reject (.arr conflictingSamples) =
      .ok (.error ⟨"n", .scalar .int, .scalar .boolean⟩) := by rfl
  refine ⟨hv, hlimit, hfirst, ?_⟩
  rcases hreject with ⟨model, h⟩ | ⟨conflict, h⟩
  · rw [h.1] at hconflict
    cases hconflict
  · have hsame := h.1
    rw [hconflict] at hsame
    cases hsame
    exact h

/-- Settings that allow one sample more than can be counted. -/
def uncountableSettings : InferenceSettings where
  sampleLimit := 9223372036854775808
  isShare_requiredThreshold := InferenceSettings.standard.isShare_requiredThreshold

/-- **Settings can be accepted and still keep a single sample from having a model.** -/
theorem uncountableSettings_unanswered :
    InferenceSettings.check .text (.obj [("sample_limit", .int 9223372036854775808)]) =
      .ok uncountableSettings ∧
    FieldModel.ofJson uncountableSettings (keepFirst : MergeStrategy (Except TypeConflict))
      (.obj [("n", .int 1)]) = .error .limitTooLarge ∧
    Generation.ofJson "Order" uncountableSettings
      (keepFirst : MergeStrategy (Except TypeConflict)) (.obj [("n", .int 1)]) =
      .error .limitTooLarge := by
  have hlimit : maxSampleLimit < uncountableSettings.sampleLimit := by decide
  exact ⟨by decide +kernel, FieldModel.ofJson_of_lt _ hlimit _,
    Generation.ofJson_of_lt _ _ hlimit _⟩

end SampleSchema
