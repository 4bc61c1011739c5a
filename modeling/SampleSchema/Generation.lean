import SampleSchema.Artifact.ApiSchema
import SampleSchema.Artifact.ModelModule
import SampleSchema.Artifact.Resolvers
import SampleSchema.Artifact.StorageSchema
import SampleSchema.Scan

/-!
# Everything generated for one type

From samples to texts: the samples give a field model, and the model, with the name of the type,
every text that is written for it. All texts come from the one model, so they agree.
-/

namespace SampleSchema

/-- What is generated for one type. -/
structure Generation where
  typeName : String
  model : FieldModel
  storage : String
  api : String
  resolvers : String
  counts : FieldCounts

namespace Generation

/-- **All texts for a model.** -/
def ofModel (typeName : String) (model : FieldModel) : Generation where
  typeName := typeName
  model := model
  storage := storageSchema model
  api := apiSchema typeName model
  resolvers := resolverModule typeName
  counts := model.counts

/-- **All texts for samples.** -/
def ofSamples {m : Type → Type} [Monad m] (typeName : String) (settings : InferenceSettings)
    (merge : MergeStrategy m) (samples : List Json) : m Generation := do
  let model ← FieldModel.ofSamples settings merge samples
  pure (.ofModel typeName model)

/-- **All texts for the samples that a value holds**, as many of them as the settings allow. -/
def ofJson {m : Type → Type} [Monad m] (typeName : String) (settings : InferenceSettings)
    (merge : MergeStrategy m) (v : Json) : Except ScanFault (m Generation) :=
  match v.examinable settings with
  | .ok samples => .ok (ofSamples typeName settings merge samples)
  | .error fault => .error fault

/-- The model module around the storage schema. -/
def modelText (g : Generation) : String := modelModule g.typeName g.storage

end Generation

end SampleSchema
