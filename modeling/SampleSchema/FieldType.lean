/-!
# Types of fields

What is known about the values of one field: a scalar kind, an array of an element type, a nested
object that is kept as it is (`mixed`), or nothing at all (`unknown`: only nulls, or the element of
an empty array). A type has two spellings, one in the storage schema and one in the API schema. The
storage side knows no difference between integers and other numbers, nor between `mixed` and
`unknown`; the API side none between `unknown` and a string.
-/

namespace SampleSchema

/-- The kinds of values that are written without parts. -/
inductive ScalarKind where
  | string
  | int
  | float
  | boolean
  | date
  | objectId
  deriving DecidableEq, Repr

namespace ScalarKind

/-- All kinds, in the order in which messages list them. -/
def all : List ScalarKind := [.string, .int, .float, .boolean, .date, .objectId]

/-- The name of a kind in the JSON form of a type. -/
def name : ScalarKind → String
  | .string => "string"
  | .int => "int"
  | .float => "float"
  | .boolean => "boolean"
  | .date => "date"
  | .objectId => "object_id"

/-- The kind of a name. -/
def ofName? (name : String) : Option ScalarKind := all.find? (·.name == name)

/-- The kind in the storage schema. -/
def storage : ScalarKind → String
  | .string => "String"
  | .int => "Number"
  | .float => "Number"
  | .boolean => "Boolean"
  | .date => "Date"
  | .objectId => "ObjectId"

/-- The kind in the API schema. -/
def api : ScalarKind → String
  | .string => "String"
  | .int => "Int"
  | .float => "Float"
  | .boolean => "Boolean"
  | .date => "Date"
  | .objectId => "ID"

theorem mem_all (k : ScalarKind) : k ∈ all := by cases k <;> decide

theorem ofName?_name (k : ScalarKind) : ofName? k.name = some k := by cases k <;> rfl

end ScalarKind

/-- The type of a field. -/
inductive FieldType where
  | scalar (kind : ScalarKind)
  | array (element : FieldType)
  | mixed
  | unknown
  deriving DecidableEq, Repr

namespace FieldType

/-- The spelling in the storage schema. -/
def storage : FieldType → String
  | .scalar k => k.storage
  | .array e => "[" ++ e.storage ++ "]"
  | .mixed => "Mixed"
  | .unknown => "Mixed"

/-- The spelling in the API schema. -/
def api : FieldType → String
  | .scalar k => k.api
  | .array e => "[" ++ e.api ++ "]"
  | .mixed => "JSON"
  | .unknown => "String"

/-- The variant of a type, as its JSON form names it. -/
def tag : FieldType → String
  | .scalar _ => "scalar"
  | .array _ => "array"
  | .mixed => "opaque"
  | .unknown => "unknown"

end FieldType

end SampleSchema
