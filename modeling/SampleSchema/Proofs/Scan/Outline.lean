import SampleSchema.Proofs.Scan.FieldWise

/-!
# What every strategy finds

A strategy decides on the types of fields and on nothing else. The OUTLINE of a scan or a model is
all of it but the types; and whatever a strategy does, with errors and a state of its own, every
run over the same observations that ends has the same outline (`Scan.outline_eq`). So the keys of a
model, the names, marks and values of its fields and the number of documents can be read off the
samples alone (`FieldModel.Outlines`, `FieldModel.outlines_of_canReturn`).

What a run of any effects MAY RETURN is the library's `MonadAttach.CanReturn`: for a run without a
state what it ends with (`FieldModel.isGiven_iff`), for one with a state what it ends with from some
state on (`FieldModel.isGiven_stateful_iff`).
-/

namespace SampleSchema

open MonadAttach LawfulMonadAttach

/-! ## 1. What a run may return -/

section CanReturn

variable {ε : Type}

/-- A run that is an error returns nothing, any other the value that it is. -/
instance monadAttachExcept : MonadAttach (Except ε) where
  CanReturn run a := run = .ok a
  attach run :=
    match run with
    | .ok a => .ok ⟨a, rfl⟩
    | .error e => .error e

instance lawfulMonadAttachExcept : LawfulMonadAttach (Except ε) where
  map_attach {_ run} := by cases run <;> rfl
  canReturn_map_imp {_ _ run a} h := by
    cases run with
    | ok b =>
      cases h
      exact b.2
    | error e => cases h

end CanReturn

variable {m : Type → Type} [Monad m] [LawfulMonad m] [MonadAttach m] [LawfulMonadAttach m]

/-- **A model that a scan of a value may give** under a strategy with any effects. -/
def FieldModel.IsGiven (settings : InferenceSettings) (merge : MergeStrategy m) (v : Json)
    (model : FieldModel) : Prop :=
  ∃ run, FieldModel.ofJson settings merge v = .ok run ∧ CanReturn run model

theorem FieldModel.isGiven_iff {ε : Type} {settings : InferenceSettings}
    {merge : MergeStrategy (Except ε)} {v : Json} {model : FieldModel} :
    FieldModel.IsGiven settings merge v model ↔
      FieldModel.ofJson settings merge v = .ok (.ok model) := by
  constructor
  · rintro ⟨run, hrun, hmodel⟩
    have hok : run = .ok model := hmodel
    rw [hrun, hok]
  · exact fun h => ⟨_, h, rfl⟩

/-- With a state, a model may be given if the run ends with it from some state on. -/
theorem FieldModel.isGiven_stateful_iff {ε σ : Type} {settings : InferenceSettings}
    {merge : MergeStrategy (ExceptT ε (StateM σ))} {v : Json} {model : FieldModel} :
    FieldModel.IsGiven settings merge v model ↔
      ∃ run, FieldModel.ofJson settings merge v = .ok run ∧
        ∃ s s', run.run.run s = (.ok model, s') := Iff.rfl

/-! ## 2. Outlines -/

/-- A tally with its type left open. -/
def Tally.outline (t : Tally) : Tally := { t with type := .unknown }

/-- A scan with all types left open. -/
def Scan.outline (scan : Scan) : Scan :=
  { scan with tallies := scan.tallies.map fun e => (e.1, e.2.outline) }

/-- A field with its type left open. -/
def Field.outline (f : Field) : Field := { f with type := .unknown }

/-- A model with all types left open. -/
def FieldModel.outline (model : FieldModel) : FieldModel :=
  { model with fields := model.fields.map fun e => (e.1, e.2.outline) }

theorem FieldModel.keys_outline (model : FieldModel) : model.outline.keys = model.keys :=
  Entries.keys_map (fun _ => Field.outline) model.fields

theorem FieldModel.get?_outline (model : FieldModel) (key : String) :
    model.outline.get? key = (model.get? key).map (·.outline) :=
  Entries.get?_map (fun _ => Field.outline) model.fields key

namespace Scan

/-- **Which type a field holds is nothing to the outline.** -/
theorem outline_holding (settings : InferenceSettings) (scan : Scan) (o : Observation)
    (type : FieldType) :
    (scan.holding settings o type).outline = scan.outline.holding settings o .unknown := by
  have hget : Entries.get? scan.outline.tallies o.1 =
      (Entries.get? scan.tallies o.1).map (·.outline) :=
    Entries.get?_map (fun _ => Tally.outline) scan.tallies o.1
  have hcount : ((Entries.get? scan.outline.tallies o.1).map (·.count)) =
      (Entries.get? scan.tallies o.1).map (·.count) := by
    rw [hget, Option.map_map]
    rfl
  have hsamples : ((Entries.get? scan.outline.tallies o.1).map (·.samples)) =
      (Entries.get? scan.tallies o.1).map (·.samples) := by
    rw [hget, Option.map_map]
    rfl
  unfold holding
  dsimp only
  rw [hcount, hsamples]
  exact congrArg (fun tallies => (⟨tallies, scan.examined⟩ : Scan))
    (Entries.put_map Tally.outline scan.tallies o.1 _).symm

theorem outline_model (settings : InferenceSettings) (scan : Scan) :
    (scan.outline.model settings) = (scan.model settings).outline := by
  unfold model outline FieldModel.outline
  rw [List.map_map, List.map_map]
  rfl

/-- **All runs over the same observations have one outline**, under any two strategies. -/
theorem outline_eq {n : Type → Type} [Monad n] [LawfulMonad n] [MonadAttach n]
    [LawfulMonadAttach n] {settings : InferenceSettings} {merge : MergeStrategy m}
    {merge' : MergeStrategy n} {obs : List Observation} {scan scan' : Scan}
    (h : CanReturn (ofObservations settings merge obs) scan)
    (h' : CanReturn (ofObservations settings merge' obs) scan') : scan.outline = scan'.outline := by
  induction obs using List.reverseRecOn generalizing scan scan' with
  | nil => rw [← eq_of_canReturn_pure h, ← eq_of_canReturn_pure h']
  | append_singleton obs o ih =>
    rw [ofObservations_append_singleton] at h h'
    obtain ⟨before, hbefore, hstep⟩ := canReturn_bind_imp' h
    obtain ⟨before', hbefore', hstep'⟩ := canReturn_bind_imp' h'
    rw [step_eq] at hstep hstep'
    obtain ⟨type, _, rfl⟩ := canReturn_map_imp' hstep
    obtain ⟨type', _, rfl⟩ := canReturn_map_imp' hstep'
    rw [outline_holding, outline_holding, ih hbefore hbefore']

end Scan

namespace FieldModel

/-- **All models of the same samples have one outline.** -/
theorem outline_eq {n : Type → Type} [Monad n] [LawfulMonad n] [MonadAttach n]
    [LawfulMonadAttach n] {settings : InferenceSettings} {merge : MergeStrategy m}
    {merge' : MergeStrategy n} {samples : List Json} {model model' : FieldModel}
    (h : CanReturn (ofSamples settings merge samples) model)
    (h' : CanReturn (ofSamples settings merge' samples) model') :
    model.outline = model'.outline := by
  rw [ofSamples_eq] at h h'
  obtain ⟨scan, hscan, rfl⟩ := canReturn_map_imp' h
  obtain ⟨scan', hscan', rfl⟩ := canReturn_map_imp' h'
  have hsame : ({ scan with examined := (documents samples).length } : Scan).outline =
      ({ scan' with examined := (documents samples).length } : Scan).outline :=
    congrArg (fun s : Scan => ({ s with examined := (documents samples).length } : Scan))
      (Scan.outline_eq hscan hscan')
  rw [← Scan.outline_model, ← Scan.outline_model, hsame]

/-! ## 3. Strategies without effects -/

/-- **A strategy that only answers gives a model, and only one**, whatever else a run could do. -/
theorem exists_ofSamples_pure (settings : InferenceSettings)
    (answer : String → FieldType → FieldType → FieldType) (samples : List Json) :
    ∃ model, ∀ (m : Type → Type) [Monad m] [LawfulMonad m],
      ofSamples settings (fun key t u => (pure (answer key t u) : m FieldType)) samples =
        pure model := by
  let next := fun (scan : Scan) (o : Observation) =>
    scan.holding settings o ((scan.call? o).elim (.ofJson o.2) fun c =>
      answer c.field c.existing c.observed)
  refine ⟨({ (observations settings samples).foldl next {} with
    examined := (documents samples).length } : Scan).model settings, fun m _ _ => ?_⟩
  have hstep : Scan.step settings (fun key t u => (pure (answer key t u) : m FieldType)) =
      fun scan o => pure (next scan o) := by
    funext scan o
    rw [Scan.step_eq]
    cases hcall : scan.call? o <;> simp [next, hcall, MergeCall.answer]
  rw [ofSamples_eq]
  unfold Scan.ofObservations
  rw [hstep, List.foldlM_pure, map_pure]

/-- What a model says of samples under such a strategy. -/
theorem describes_of_canReturn {settings : InferenceSettings}
    (answer : String → FieldType → FieldType → FieldType) {samples : List Json} {model : FieldModel}
    (h : CanReturn
      (ofSamples settings (fun key t u => (pure (answer key t u) : m FieldType)) samples) model) :
    Describes settings (fun key t u => (.ok (answer key t u) : Except Empty FieldType)) samples
      model := by
  obtain ⟨only, honly⟩ := exists_ofSamples_pure settings answer samples
  rw [honly] at h
  rw [← eq_of_canReturn_pure h]
  exact describes_of_ok (honly (Except Empty))

/-! ## 4. What a model says under every strategy -/

/-- **Every model of samples says the same of them but for its types**, whatever the strategy. -/
theorem outlines_of_canReturn {settings : InferenceSettings} {merge : MergeStrategy m}
    {samples : List Json} {model : FieldModel}
    (h : CanReturn (ofSamples settings merge samples) model) :
    Outlines settings samples model := by
  obtain ⟨first, hfirst⟩ := exists_ofSamples_pure settings (fun _ t _ => t) samples
  have hok : CanReturn (ofSamples settings (keepFirst : MergeStrategy (Except Empty)) samples)
      first := hfirst (Except Empty)
  have hD := describes_of_ok hok
  have hsame := outline_eq h hok
  have hexamined : model.outline.examined = first.outline.examined :=
    congrArg FieldModel.examined hsame
  change model.examined = first.examined at hexamined
  refine ⟨hexamined.trans hD.examined, ?_, fun key f hf => ?_⟩
  · rw [← model.keys_outline, hsame, first.keys_outline, hD.keys]
  · have hget : (first.get? key).map (·.outline) = some f.outline := by
      rw [← first.get?_outline, ← hsame, model.get?_outline, hf]
      rfl
    obtain ⟨g, hg, hfield⟩ := Option.map_eq_some_iff.mp hget
    obtain ⟨hname, -, hrequired, hsamples⟩ := Field.mk.inj hfield
    obtain ⟨-, hD⟩ := hD.field key g hg
    rw [← hname, ← hrequired, ← hsamples, hexamined]
    exact hD

/-- Every model that is given for a value comes from samples of it. -/
theorem IsGiven.exists_outlines {settings : InferenceSettings} {merge : MergeStrategy m} {v : Json}
    {model : FieldModel} (h : IsGiven settings merge v model) :
    ∃ samples, v.examinable settings = .ok samples ∧ Outlines settings samples model := by
  obtain ⟨run, hrun, hmodel⟩ := h
  unfold ofJson at hrun
  cases hv : v.examinable settings with
  | error fault =>
    rw [hv] at hrun
    cases hrun
  | ok samples =>
    rw [hv] at hrun
    cases hrun
    exact ⟨samples, rfl, outlines_of_canReturn hmodel⟩

end FieldModel

end SampleSchema
