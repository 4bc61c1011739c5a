import SampleSchema.Artifact.Lines
import SampleSchema.FieldModel

/-!
# The storage schema

An object literal with one entry for each field of a model, under the key of the field and in the
order of the model. An entry names the storage type of the field and says whether it is required. A
type that the schema library holds is named by its path there; any other type is spelled as it is,
arrays in brackets.
-/

namespace SampleSchema

/-- The type of a field, as an entry names it. -/
def FieldType.storageOption : FieldType → String
  | .mixed => "type: mongoose.Schema.Types.Mixed"
  | .unknown => "type: mongoose.Schema.Types.Mixed"
  | .scalar .objectId => "type: mongoose.Schema.Types.ObjectId, ref: 'TODO'"
  | t => "type: " ++ t.storage

/-- What an entry says about a field. -/
def Field.storageOptions (f : Field) : String :=
  f.type.storageOption ++ if f.required then ", required: true" else ""

/-- The entry of a field. -/
def storageEntry (key : String) (f : Field) : String :=
  "  " ++ key ++ ": \x7b " ++ f.storageOptions ++ " \x7d"

/-- **The storage schema of a model.** -/
def storageSchema (model : FieldModel) : String :=
  "\x7b\n" ++ ",\n".intercalate (model.fields.map fun (key, f) => storageEntry key f) ++ "\n\x7d"

end SampleSchema
