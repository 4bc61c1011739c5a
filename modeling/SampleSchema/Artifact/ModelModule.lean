import SampleSchema.Artifact.Lines

/-!
# The model module

A module that builds the schema of the entity from a storage schema and exports the model under the
name of the type. The database keeps the time stamps.
-/

namespace SampleSchema

/-- The lines of the model module around a storage schema. -/
def modelLines (typeName storageSchema : String) : List String :=
  ["import mongoose from 'mongoose';", "",
    "const " ++ typeName ++ "Schema = new mongoose.Schema(",
    "  " ++ storageSchema ++ ",",
    "  \x7b", "    timestamps: true,", "  \x7d", ");", "",
    "export default mongoose.model('" ++ typeName ++ "', " ++ typeName ++ "Schema);"]

/-- **The model module of a type.** -/
def modelModule (typeName storageSchema : String) : String :=
  endLines (modelLines typeName storageSchema)

end SampleSchema
