import SampleSchema.Artifact.Lines
import SampleSchema.FieldModel
import SampleSchema.Naming

/-!
# The API schema

Three parts: the object type of the entity, the input type that its mutations take, and the
operations on it. The object type always has an identity and two time stamps; so fields of a model
under the names of the time stamps are left out of it, and the input type leaves out the identity
as well. A required field carries an exclamation mark.
-/

namespace SampleSchema

/-! ## 1. Types -/

/-- The name of the identity of a document. -/
def identityName : String := "_id"

/-- The names of the two time stamps of a document. -/
def timestampNames : List String := ["createdAt", "updatedAt"]

/-- What a type says about one field. -/
structure ApiField where
  name : String
  type : String
  required : Bool
  deriving DecidableEq, Repr

/-- The line of a field. -/
def ApiField.line (f : ApiField) : String :=
  "  " ++ f.name ++ ": " ++ f.type ++ if f.required then "!" else ""

/-- A field of a model, as a type shows it, under its own name. -/
def Field.toApi (f : Field) : ApiField := ⟨f.name, f.type.api, f.required⟩

/-- The identity, as the object type shows it. -/
def identityField : ApiField := ⟨identityName, "ID", true⟩

/-- The time stamps, as the object type shows them. -/
def timestampFields : List ApiField := timestampNames.map fun name => ⟨name, "Date", false⟩

/-- The lines of an object type with the given fields besides the identity and the time stamps. -/
def objectTypeLines (typeName : String) (fields : List ApiField) : List String :=
  braced ("type " ++ typeName) ((identityField :: fields ++ timestampFields).map (·.line))

/-- The lines of an input type with the given fields. -/
def inputTypeLines (typeName : String) (fields : List ApiField) : List String :=
  braced ("input " ++ typeName ++ "Input") (fields.map (·.line))

/-- The fields of a model that its object type shows. -/
def FieldModel.objectFields (model : FieldModel) : List ApiField :=
  (model.values.filter fun f => !timestampNames.contains f.name).map (·.toApi)

/-- The fields of a model that its input type shows. -/
def FieldModel.inputFields (model : FieldModel) : List ApiField :=
  (model.values.filter fun f => !(identityName :: timestampNames).contains f.name).map (·.toApi)

/-- **The object type of a model.** -/
def objectType (typeName : String) (model : FieldModel) : String :=
  joinLines (objectTypeLines typeName model.objectFields)

/-- **The input type of a model.** -/
def inputType (typeName : String) (model : FieldModel) : String :=
  joinLines (inputTypeLines typeName model.inputFields)

/-! ## 2. Operations -/

/-- An operation that the API offers. -/
structure ApiOperation where
  name : String
  /-- The arguments and their types. -/
  arguments : List (String × String)
  result : String
  deriving DecidableEq, Repr

/-- The arguments of an operation, in parentheses if there are any. -/
def ApiOperation.argumentText (op : ApiOperation) : String :=
  if op.arguments.isEmpty then ""
  else "(" ++ ", ".intercalate (op.arguments.map fun (name, type) => name ++ ": " ++ type) ++ ")"

/-- The line of an operation. -/
def ApiOperation.line (op : ApiOperation) : String :=
  "  " ++ op.name ++ op.argumentText ++ ": " ++ op.result

/-- The operations that look up documents: all of them, or one by its identity. -/
def queries (typeName : String) : List ApiOperation :=
  [⟨collectionName typeName, [], "[" ++ typeName ++ "!]!"⟩,
    ⟨valueName typeName, [("id", "ID!")], typeName⟩]

/-- The operations that change documents. -/
def mutations (typeName : String) : List ApiOperation :=
  let input := ("input", typeName ++ "Input!")
  [⟨"create" ++ typeName, [input], typeName⟩,
    ⟨"update" ++ typeName, [("id", "ID!"), input], typeName⟩,
    ⟨"delete" ++ typeName, [("id", "ID!")], "Boolean!"⟩]

/-- The lines of all operations. -/
def operationLines (typeName : String) : List String :=
  braced "type Query" ((queries typeName).map (·.line)) ++ [""] ++
    braced "type Mutation" ((mutations typeName).map (·.line))

/-! ## 3. The schema -/

/-- **The API schema of a model.** -/
def apiSchema (typeName : String) (model : FieldModel) : String :=
  "\n\n".intercalate
    [objectType typeName model, inputType typeName model, endLines (operationLines typeName)]

end SampleSchema
