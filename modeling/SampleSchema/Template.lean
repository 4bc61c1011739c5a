import SampleSchema.Artifact.ApiSchema
import SampleSchema.Artifact.ModelModule
import SampleSchema.Artifact.Resolvers

/-!
# Templates

Two kinds. A BUNDLED template is one of the generated texts, found by its file name, around values
that the caller gives; a value that is not given is empty. A WRITTEN template is literal text with
placeholders, each a name and filters that are applied to its value one after the other. Its line
ends are folded; those in a value stay.
-/

namespace SampleSchema

/-! ## 1. Bundled templates -/

/-- The values for a bundled template. -/
structure TemplateValues where
  typeName : String := ""
  storageSchema : String := ""
  fields : List ApiField := []

/-- The bundled templates. -/
inductive BundledTemplate where
  | objectType
  | inputType
  | operations
  | resolvers
  | model
  deriving DecidableEq, Repr

namespace BundledTemplate

/-- All bundled templates. -/
def all : List BundledTemplate := [.objectType, .inputType, .operations, .resolvers, .model]

/-- The file name of a template. -/
def fileName : BundledTemplate → String
  | .objectType => "api_type.graphql.j2"
  | .inputType => "api_input.graphql.j2"
  | .operations => "api_operations.graphql.j2"
  | .resolvers => "resolvers.js.j2"
  | .model => "model.js.j2"

/-- **The template of a file name**; slashes and dots that say nothing in a path say nothing
    here. -/
def ofFileName? (name : String) : Option BundledTemplate :=
  all.find? fun t => Path.partsOf name.toList == [t.fileName]

/-- **The text of a template.** -/
def render (t : BundledTemplate) (values : TemplateValues) : String :=
  match t with
  | .objectType => endLines (objectTypeLines values.typeName values.fields)
  | .inputType => endLines (inputTypeLines values.typeName values.fields)
  | .operations => endLines (operationLines values.typeName)
  | .resolvers => resolverModule values.typeName
  | .model => modelModule values.typeName values.storageSchema

end BundledTemplate

/-! ## 2. Written templates -/

/-- What a placeholder does to its value. -/
inductive TemplateFilter where
  | pascalCase
  | valueName
  | plural
  deriving DecidableEq, Repr

/-- A piece of a written template. -/
inductive TemplatePiece where
  | literal (text : List Char)
  | placeholder (name : String) (filters : List TemplateFilter)
  deriving DecidableEq, Repr

/-- The text of a template needs a value that is not given. -/
structure MissingValue where
  name : String
  deriving DecidableEq, Repr

/-- The text of the fault. -/
def MissingValue.message (f : MissingValue) : String := quoted f.name ++ " is undefined"

namespace TemplateFilter

/-- The filter of a name. -/
def ofName? (name : String) : Option TemplateFilter :=
  if name = "pascal_case" then some .pascalCase
  else if name = "value_name" then some .valueName
  else if name = "pluralize" then some .plural
  else none

/-- A filter applied to a value. Where none is given, only the words of a text cannot be had; else a
    value that is not given is an empty text. -/
def apply (f : TemplateFilter) (name : String) (value : Option String) :
    Except MissingValue String :=
  match f, value with
  | .pascalCase, none => .error ⟨name⟩
  | .pascalCase, some text => .ok (SampleSchema.pascalCase text)
  | .valueName, _ => .ok (SampleSchema.valueName (value.getD ""))
  | .plural, _ => .ok (SampleSchema.plural (value.getD ""))

/-- Filters applied one after the other. -/
def applyAll (name : String) (filters : List TemplateFilter) (value : Option String) :
    Except MissingValue String :=
  match filters with
  | [] => .ok (value.getD "")
  | f :: rest =>
    match f.apply name value with
    | .ok text => applyAll name rest (some text)
    | .error fault => .error fault

end TemplateFilter

namespace TemplatePiece

/-- The placeholder that stands between braces: a name and filters, with bars between them. What is
    none stays literal, with its braces. -/
def ofInside (inside : List Char) : TemplatePiece :=
  let written := .literal (['{', '{'] ++ inside ++ ['}', '}'])
  match (segments (· == '|') inside).map fun s => String.ofList (trimmed isBlank s) with
  | [] => written
  | name :: filters =>
    match filters.mapM TemplateFilter.ofName? with
    | some filters => .placeholder name filters
    | none => written

/-- Where the reader of a template stands: in literal text or in a placeholder, with what is read of
    it in reverse. -/
inductive Reading where
  | literal (read : List Char)
  | inside (read : List Char)

/-- The pieces of a template, read from a character on. -/
def scan : Reading → List Char → List TemplatePiece
  | .literal read, [] => [.literal read.reverse]
  | .inside read, [] => [.literal (['{', '{'] ++ read.reverse)]
  | .literal read, '{' :: '{' :: rest => .literal read.reverse :: scan (.inside []) rest
  | .inside read, '}' :: '}' :: rest => ofInside read.reverse :: scan (.literal []) rest
  | .literal read, c :: rest => scan (.literal (c :: read)) rest
  | .inside read, c :: rest => scan (.inside (c :: read)) rest

/-- The text of a piece. -/
def render (values : List (String × String)) : TemplatePiece → Except MissingValue String
  | .literal text => .ok (String.ofList text)
  | .placeholder name filters => TemplateFilter.applyAll name filters (Entries.get? values name)

end TemplatePiece

/-- **The text of a written template.** -/
def renderTemplate (template : List Char) (values : List (String × String)) :
    Except MissingValue String :=
  (TemplatePiece.scan (.literal []) (foldLineEnds template)).foldlM
    (fun text piece => (piece.render values).map (text ++ ·)) ""

end SampleSchema
