import SampleSchema.FieldType

/-!
# Faults of a record

A record that is read from JSON may have several faults, and all are reported: each with the place
in the record, its cause, and the cause in words. The place is the way from the whole record to the
faulty value.
-/

namespace SampleSchema

/-- One step into a value. -/
inductive LocationStep where
  | name (name : String)
  | index (index : Nat)
  deriving DecidableEq, Repr

/-- A step as it is written in a place. -/
def LocationStep.text : LocationStep → String
  | .name key => key
  | .index n => toString n

/-- What is wrong with a value. -/
inductive Cause where
  | notAnInteger
  | fraction
  | notFinite
  | integerText
  | integerTooLong
  | notANumber
  | numberText
  | below (bound : Nat)
  | above (bound : Nat)
  | notABoolean
  | booleanText
  | notAText
  | notAList
  | notAnArray
  | notADictionary
  | notAPath
  | notAnObject
  /-- No record of the given name. -/
  | notARecord (name : String)
  | missing
  | notAVariant
  | noTag
  | unknownTag (shown : String)
  | unknownKind
  | frozen
  /-- The text is no JSON at all. -/
  | malformed
  deriving DecidableEq, Repr

/-- Choices in a message, each between quotes; the last one follows its own word. -/
def choices (names : List String) (last : String) : String :=
  let marked := names.map fun name => "'" ++ name ++ "'"
  ", ".intercalate marked.dropLast ++ last ++ marked.getLast?.getD ""

/-- The tags of the variants of a type. -/
def FieldType.tags : List String := ["scalar", "array", "opaque", "unknown"]

/-- The tag of every type is among the tags. -/
theorem FieldType.tag_mem_tags (t : FieldType) : t.tag ∈ FieldType.tags := by
  cases t <;> simp [FieldType.tag, FieldType.tags]

namespace Cause

/-- The short name of a cause. -/
def code : Cause → String
  | .notAnInteger => "int_type"
  | .fraction => "int_from_float"
  | .notFinite => "finite_number"
  | .integerText => "int_parsing"
  | .integerTooLong => "int_parsing_size"
  | .notANumber => "float_type"
  | .numberText => "float_parsing"
  | .below _ => "greater_than_equal"
  | .above _ => "less_than_equal"
  | .notABoolean => "bool_type"
  | .booleanText => "bool_parsing"
  | .notAText => "string_type"
  | .notAList => "list_type"
  | .notAnArray => "list_type"
  | .notADictionary => "dict_type"
  | .notAPath => "path_type"
  | .notAnObject => "model_type"
  | .notARecord _ => "model_type"
  | .missing => "missing"
  | .notAVariant => "model_attributes_type"
  | .noTag => "union_tag_not_found"
  | .unknownTag _ => "union_tag_invalid"
  | .unknownKind => "enum"
  | .frozen => "frozen_instance"
  | .malformed => "json_invalid"

/-- A cause in words; a text that is no JSON has none. -/
def message : Cause → String
  | .notAnInteger => "Input should be a valid integer"
  | .fraction => "Input should be a valid integer, got a number with a fractional part"
  | .notFinite => "Input should be a finite number"
  | .integerText => "Input should be a valid integer, unable to parse string as an integer"
  | .integerTooLong =>
    "Unable to parse input string as an integer, exceeded maximum size"
  | .notANumber => "Input should be a valid number"
  | .numberText => "Input should be a valid number, unable to parse string as a number"
  | .below bound => s!"Input should be greater than or equal to {bound}"
  | .above bound => s!"Input should be less than or equal to {bound}"
  | .notABoolean => "Input should be a valid boolean"
  | .booleanText => "Input should be a valid boolean, unable to interpret input"
  | .notAText => "Input should be a valid string"
  | .notAList => "Input should be a valid list"
  | .notAnArray => "Input should be a valid array"
  | .notADictionary => "Input should be a valid dictionary"
  | .notAPath => "Input is not a valid path for <class 'pathlib.Path'>"
  | .notAnObject => "Input should be an object"
  | .notARecord name => "Input should be a valid dictionary or instance of " ++ name
  | .missing => "Field required"
  | .notAVariant => "Input should be a valid dictionary or object to extract fields from"
  | .noTag => "Unable to extract tag using discriminator 'tag'"
  | .unknownTag shown =>
    "Input tag '" ++ shown ++ "' found using 'tag' does not match any of the expected tags: " ++
      choices FieldType.tags ", "
  | .unknownKind => "Input should be " ++ choices (ScalarKind.all.map (·.name)) " or "
  | .frozen => "Instance is frozen"
  | .malformed => ""

end Cause

/-- One fault. -/
structure Fault where
  /-- The way from the record to the faulty value. -/
  location : List LocationStep
  cause : Cause
  deriving DecidableEq, Repr

namespace Fault

/-- The place of a fault. -/
def place (f : Fault) : String :=
  if f.location.isEmpty then "-" else ".".intercalate (f.location.map (·.text))

/-- A fault in words. -/
def text (f : Fault) : String :=
  let head := f.place ++ " [" ++ f.cause.code ++ "]"
  if f.cause.message.isEmpty then head else head ++ " " ++ f.cause.message

/-- All faults of a record in words. -/
def message (faults : List Fault) : String := "; ".intercalate (faults.map text)

end Fault

end SampleSchema
