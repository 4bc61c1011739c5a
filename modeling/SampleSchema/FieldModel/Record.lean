import SampleSchema.FieldModel
import SampleSchema.Json.Printer
import SampleSchema.Validation.Lenient

/-!
# The JSON form of a field model

A type is an object whose `tag` names the variant; the other members depend on it. A field and a
model are objects with one member for each of their parts. What is read back is checked: the faults
of all parts are reported, and inside a type the tags are part of the place. Members that nothing
asks for are ignored.

Types may be nested to any depth here. The library that checks records in the program gives up on
nested ones: on validation after about 255 levels, on writing after 254, and on a JSON text after 200.
-/

namespace SampleSchema

/-! ## 1. Types -/

namespace FieldType

/-- The JSON form of a type. -/
def toJson : FieldType → Json
  | .scalar k => .obj [("tag", .str "scalar"), ("kind", .str k.name)]
  | .array e => .obj [("tag", .str "array"), ("element", e.toJson)]
  | .mixed => .obj [("tag", .str "opaque")]
  | .unknown => .obj [("tag", .str "unknown")]

/-- The kind that a value names. -/
def checkKind : Json → Checked ScalarKind
  | .str name =>
    match ScalarKind.ofName? name with
    | some k => .ok k
    | none => Checked.fault .unknownKind
  | _ => Checked.fault .unknownKind

mutual

/-- **The type that a value is the JSON form of**, however deep it is; the program gives up after
    about 255 levels. -/
def check : Json → Checked FieldType
  | .obj members =>
    match Entries.get? members "tag" with
    | none => Checked.fault .noTag
    | some (.str "scalar") =>
      ((Checked.required members "kind" checkKind).inside (.name "scalar")).map .scalar
    | some (.str "array") => ((checkElement members).inside (.name "array")).map .array
    | some (.str "opaque") => .ok .mixed
    | some (.str "unknown") => .ok .unknown
    | some v => Checked.fault (.unknownTag v.shown)
  | _ => Checked.fault .notAVariant

/-- The element type among the members of an array type. -/
def checkElement : List (String × Json) → Checked FieldType
  | [] => (Checked.fault .missing).inside (.name "element")
  | (key, v) :: rest =>
    if key = "element" then (check v).inside (.name "element") else checkElement rest

end

end FieldType

/-! ## 2. Fields -/

namespace Field

/-- The JSON form of a field. -/
def toJson (f : Field) : Json :=
  .obj [("name", .str f.name), ("type", f.type.toJson), ("required", .bool f.required),
    ("sample_values", .arr f.samples)]

/-- The field that a value is the JSON form of. -/
def check : Json → Checked Field :=
  Checked.record .value "FieldDescriptor" fun members =>
    (Checked.both (Checked.required members "name" Checked.string)
      (Checked.both (Checked.required members "type" FieldType.check)
        (Checked.both (Checked.optional members "required" false Checked.boolean)
          (Checked.optional members "sample_values" []
            (Checked.list .value Except.ok))))).map
      fun (name, type, required, samples) => ⟨name, type, required, samples⟩

end Field

/-! ## 3. Models -/

namespace FieldModel

/-- The JSON form of a model. -/
def toJson (model : FieldModel) : Json :=
  .obj [("fields", .obj (model.fields.map fun (key, f) => (key, f.toJson))),
    ("samples_examined", .int model.examined)]

/-- The entries of a dictionary of fields, each checked at its key. -/
def checkEntries (members : List (String × Json)) : List (Checked (String × Field)) :=
  members.map fun (key, v) => ((Field.check v).inside (.name key)).map fun f => (key, f)

/-- A dictionary of fields. -/
def checkFields : Json → Checked (List (String × Field))
  | .obj members => Checked.all (checkEntries members)
  | _ => Checked.fault .notADictionary

/-- **The model that a value is the JSON form of.** -/
def check : Json → Checked FieldModel :=
  Checked.record .value "FieldModel" fun members =>
    (Checked.both (Checked.optional members "fields" [] checkFields)
      (Checked.optional members "samples_examined" ⟨0, Nat.le_refl 0⟩ (Checked.natural 0))).map
      fun (fields, examined) => ⟨fields, examined.1⟩

end FieldModel

end SampleSchema
