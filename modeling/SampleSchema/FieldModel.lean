import SampleSchema.FieldType
import SampleSchema.Json.Value

/-!
# Field models

What a scan finds out about a collection of documents: its fields, in the order in which they were
first met, and how many documents were looked at. A model is a dictionary of fields; a field also
carries its own name, which a model that was read from a file may spell otherwise than the key.
-/

namespace SampleSchema

/-- Everything known about one field. -/
structure Field where
  name : String
  type : FieldType
  required : Bool := false
  /-- Some of the field's values, in the order in which they were met. -/
  samples : List Json := []
  deriving Repr

/-- What is known about a collection of documents. -/
structure FieldModel where
  fields : List (String × Field) := []
  /-- How many documents were looked at. -/
  examined : Nat := 0
  deriving Repr

/-- What a table shows of one field. -/
structure FieldPreview where
  key : String
  api : String
  required : Bool
  samples : List Json

/-- The numbers of fields in a model. -/
structure FieldCounts where
  total : Nat
  required : Nat
  optional : Nat
  deriving DecidableEq, Repr

namespace FieldModel

/-- The number of fields. -/
def size (model : FieldModel) : Nat := model.fields.length

/-- The keys, in order. -/
def keys (model : FieldModel) : List String := Entries.keys model.fields

/-- The fields, in order. -/
def values (model : FieldModel) : List Field := model.fields.map (·.2)

/-- The field of a key. -/
def get? (model : FieldModel) (key : String) : Option Field := Entries.get? model.fields key

/-- Is there a field of this key? -/
def contains (model : FieldModel) (key : String) : Bool := (model.get? key).isSome

/-- How many fields are required. -/
def requiredCount (model : FieldModel) : Nat := (model.values.filter (·.required)).length

/-- How many fields are not. -/
def optionalCount (model : FieldModel) : Nat := model.size - model.requiredCount

/-- The numbers of fields. -/
def counts (model : FieldModel) : FieldCounts :=
  ⟨model.size, model.requiredCount, model.optionalCount⟩

/-- What a table shows of the model. -/
def preview (model : FieldModel) : List FieldPreview :=
  model.fields.map fun (key, field) => ⟨key, field.type.api, field.required, field.samples⟩

end FieldModel

end SampleSchema
