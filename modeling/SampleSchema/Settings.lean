import SampleSchema.InferenceSettings
import SampleSchema.Json.Printer
import SampleSchema.Json.Reader
import SampleSchema.Validation.Lenient

/-!
# Settings

All settings of a run: those of the scan, the project directory, and where below it the generated
files go. They have a JSON form, in which a saved file holds them (`Settings.fileText`); a part that
is missing there has its default. Reading checks every part and reports all faults.
-/

namespace SampleSchema

/-! ## 1. The scan -/

/-- A number that is a share: a NaN, and what is greater than one, is above; the rest that is no
    share is below. -/
def Checked.share (source : Source) (v : Json) : Checked { x : Double // x.isShare = true } :=
  match Checked.number source v with
  | .ok x =>
    if h : x.isShare = true then .ok ⟨x, h⟩
    else if x.le .one then Checked.fault (.below 0)
    else Checked.fault (.above 1)
  | .error faults => .error faults

namespace InferenceSettings

/-- The JSON form. -/
def toJson (s : InferenceSettings) : Json :=
  .obj [("sample_limit", .int s.sampleLimit), ("required_threshold", .double s.requiredThreshold),
    ("sample_value_limit", .int s.sampleValueLimit),
    ("reserved_keys", .arr (s.reservedKeys.map .str))]

/-- **The settings that a value is the JSON form of.** -/
def check (source : Source) : Json → Checked InferenceSettings :=
  let standard : InferenceSettings := .standard
  Checked.record source "InferenceConfig" fun members =>
    (Checked.both
      (Checked.optional members "sample_limit" ⟨_, standard.one_le_sampleLimit⟩
        (Checked.natural 1))
      (Checked.both
        (Checked.optional members "required_threshold" ⟨_, standard.isShare_requiredThreshold⟩
          (Checked.share source))
        (Checked.both
          (Checked.optional members "sample_value_limit" ⟨_, Nat.zero_le standard.sampleValueLimit⟩
            (Checked.natural 0))
          (Checked.optional members "reserved_keys" standard.reservedKeys
            (Checked.list source Checked.string))))).map
      fun (sampleLimit, threshold, valueLimit, reservedKeys) =>
        { sampleLimit := sampleLimit.1
          requiredThreshold := threshold.1
          sampleValueLimit := valueLimit.1
          reservedKeys := reservedKeys
          one_le_sampleLimit := sampleLimit.2
          isShare_requiredThreshold := threshold.2 }

end InferenceSettings

/-! ## 2. Where files go -/

/-- The directories of generated files, seen from the project directory. -/
structure OutputSettings where
  models : Path := .ofText "src/models"
  typedefs : Path := .ofText "src/graphql/typeDefs"
  resolvers : Path := .ofText "src/graphql/resolvers"
  deriving DecidableEq, Repr

namespace OutputSettings

/-- The JSON form. -/
def toJson (s : OutputSettings) : Json :=
  .obj [("models_dir", .str s.models.text), ("typedefs_dir", .str s.typedefs.text),
    ("resolvers_dir", .str s.resolvers.text)]

/-- **The settings that a value is the JSON form of.** -/
def check (source : Source) : Json → Checked OutputSettings :=
  let standard : OutputSettings := {}
  Checked.record source "OutputConfig" fun members =>
    (Checked.both (Checked.optional members "models_dir" standard.models Checked.path)
      (Checked.both (Checked.optional members "typedefs_dir" standard.typedefs Checked.path)
        (Checked.optional members "resolvers_dir" standard.resolvers Checked.path))).map
      fun (models, typedefs, resolvers) => ⟨models, typedefs, resolvers⟩

end OutputSettings

/-! ## 3. All settings -/

/-- The settings of a run. -/
structure Settings where
  projectRoot : Path := .ofText "."
  inference : InferenceSettings := .standard
  output : OutputSettings := {}
  deriving DecidableEq, Repr

namespace Settings

/-- The JSON form. -/
def toJson (s : Settings) : Json :=
  .obj [("project_root", .str s.projectRoot.text), ("inference", s.inference.toJson),
    ("output", s.output.toJson)]

/-- **The settings that a value is the JSON form of.** -/
def check (source : Source) : Json → Checked Settings :=
  let standard : Settings := {}
  Checked.record source "Config" fun members =>
    (Checked.both (Checked.optional members "project_root" standard.projectRoot Checked.path)
      (Checked.both
        (Checked.optional members "inference" standard.inference (InferenceSettings.check source))
        (Checked.optional members "output" standard.output (OutputSettings.check source)))).map
      fun (projectRoot, inference, output) => ⟨projectRoot, inference, output⟩

/-- The text of a file that holds the settings. -/
def fileText (s : Settings) : String := s.toJson.fileText

/-- **The settings that a text holds**; a text that is no JSON has just this one fault. -/
def ofFileText (text : List Char) : Checked Settings :=
  match Json.read text with
  | .ok v => check .text v
  | .error _ => Checked.fault .malformed

end Settings

end SampleSchema
