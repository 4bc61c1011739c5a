import SampleSchema.FieldModel
import SampleSchema.FieldType.Inference
import SampleSchema.FieldType.Merge
import SampleSchema.InferenceSettings

/-!
# Scanning samples

One pass over the first samples of a collection builds its field model. What is known of a field so
far is its TALLY: the type it is held to have, in how many documents it was met, and its first
values. A sample that is no object counts towards the limit of samples, but not as a document; a
reserved key is passed over. When the pass is over, a field is required if its share of the
documents, rounded to a double, lies above the threshold.
-/

namespace SampleSchema

/-! ## 1. Samples -/

/-- Why nothing can be scanned. -/
inductive ScanFault where
  /-- The limit of samples is beyond what a count of samples can be. -/
  | limitTooLarge
  /-- The value is no sequence of samples. -/
  | notASequence (kindName : String)
  deriving DecidableEq, Repr

/-- The text of a fault. -/
def ScanFault.message : ScanFault → String
  | .limitTooLarge =>
    "Stop argument for islice() must be None or an integer: 0 <= x <= sys.maxsize."
  | .notASequence kindName => "'" ++ kindName ++ "' object is not iterable"

/-- The greatest number of samples that can be counted. -/
def maxSampleLimit : Nat := Nat.pow 2 63 - 1

/-- The samples that a value holds: an object is the one sample, an array holds its elements, and a
    text its characters. -/
def JsonOf.samples? : Json → Except ScanFault (List Json)
  | .obj ms => .ok [.obj ms]
  | .arr items => .ok items
  | .str s => .ok (s.toList.map fun c => .str (String.singleton c))
  | v => .error (.notASequence v.kindName)

/-- The samples to be looked at under given settings. -/
def JsonOf.examinable (settings : InferenceSettings) (v : Json) : Except ScanFault (List Json) :=
  if maxSampleLimit < settings.sampleLimit then .error .limitTooLarge
  else match v.samples? with
    | .ok samples => .ok (samples.take settings.sampleLimit)
    | .error e => .error e

/-! ## 2. Tallies -/

/-- What is known of one field so far. -/
structure Tally where
  type : FieldType
  /-- The number of documents the field was met in. -/
  count : Nat
  /-- The first values, in order. -/
  samples : List Json

/-- A scan under way: the tallies of the fields met, and the number of documents. -/
structure Scan where
  tallies : List (String × Tally) := []
  examined : Nat := 0

namespace Scan

variable {m : Type → Type} [Monad m]

/-- The values kept of a field, after one more. -/
def keepSample (limit : Nat) (samples : List Json) (v : Json) : List Json :=
  if samples.length < limit then samples ++ [v] else samples

/-- One more value of a field. A field met for the first time takes the type of the value; after
    that the strategy decides, once for each value. -/
def record (settings : InferenceSettings) (merge : MergeStrategy m) (scan : Scan) (key : String)
    (v : Json) : m Scan :=
  match Entries.get? scan.tallies key with
  | none =>
    let tally := ⟨.ofJson v, 1, keepSample settings.sampleValueLimit [] v⟩
    pure { scan with tallies := Entries.put scan.tallies key tally }
  | some t => do
    let type ← merge key t.type (.ofJson v)
    let tally := ⟨type, t.count + 1, keepSample settings.sampleValueLimit t.samples v⟩
    pure { scan with tallies := Entries.put scan.tallies key tally }

/-- One member of a document; a reserved key is passed over. -/
def member (settings : InferenceSettings) (merge : MergeStrategy m) (scan : Scan)
    (entry : String × Json) : m Scan :=
  if settings.reservedKeys.contains entry.1 then pure scan
  else scan.record settings merge entry.1 entry.2

/-- One sample; what is no object is passed over. -/
def sample (settings : InferenceSettings) (merge : MergeStrategy m) (scan : Scan) :
    Json → m Scan
  | .obj ms => ms.foldlM (member settings merge) { scan with examined := scan.examined + 1 }
  | _ => pure scan

/-- All samples, one after the other. -/
def run (settings : InferenceSettings) (merge : MergeStrategy m) (samples : List Json) : m Scan :=
  samples.foldlM (sample settings merge) {}

/-- Is a field that was met in `count` of `examined` documents required? -/
def isRequired (settings : InferenceSettings) (examined count : Nat) : Bool :=
  settings.requiredThreshold.lt (.ofQuotient false count examined)

/-- The field that a tally stands for. -/
def fieldOf (settings : InferenceSettings) (examined : Nat) (key : String) (t : Tally) : Field :=
  { name := key
    type := t.type
    required := isRequired settings examined t.count
    samples := t.samples }

/-- The model that a finished scan stands for. -/
def model (settings : InferenceSettings) (scan : Scan) : FieldModel :=
  { fields := scan.tallies.map fun (key, t) => (key, fieldOf settings scan.examined key t)
    examined := scan.examined }

end Scan

/-- **The field model of samples.** -/
def FieldModel.ofSamples {m : Type → Type} [Monad m] (settings : InferenceSettings)
    (merge : MergeStrategy m) (samples : List Json) : m FieldModel := do
  let scan ← Scan.run settings merge samples
  pure (scan.model settings)

/-- **The field model of the samples that a value holds**, as many of them as the settings allow. -/
def FieldModel.ofJson {m : Type → Type} [Monad m] (settings : InferenceSettings)
    (merge : MergeStrategy m) (v : Json) : Except ScanFault (m FieldModel) :=
  match v.examinable settings with
  | .ok samples => .ok (FieldModel.ofSamples settings merge samples)
  | .error fault => .error fault

end SampleSchema
