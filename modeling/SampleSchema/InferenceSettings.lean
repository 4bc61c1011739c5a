import SampleSchema.Number.Double

/-!
# Settings of a scan

How many samples are looked at, from which share of the samples on a field is required, how many
values of a field are kept, and which keys are never fields. The bounds are part of the type: what
reads settings has to check them.
-/

namespace SampleSchema

/-- Does a double lie between zero and one? A negative zero does. -/
def Double.isShare (x : Double) : Bool := x.le .one && Double.zero.le x

/-- The double nearest to eight tenths. -/
def Double.eightTenths : Double := .ofQuotient false 8 10

/-- The settings of a scan. -/
structure InferenceSettings where
  /-- The greatest number of samples looked at. -/
  sampleLimit : Nat := 10
  /-- A field is required when it is present in a strictly greater share of the documents. -/
  requiredThreshold : Double := .eightTenths
  /-- The greatest number of values kept of a field. -/
  sampleValueLimit : Nat := 3
  /-- Keys of a document that are never fields. -/
  reservedKeys : List String := ["_id", "__v"]
  one_le_sampleLimit : 1 ≤ sampleLimit := by decide
  isShare_requiredThreshold : requiredThreshold.isShare = true := by decide +kernel
  deriving DecidableEq, Repr

/-- The settings where none are given. -/
def InferenceSettings.standard : InferenceSettings := {}

end SampleSchema
