import SampleSchema.FileTree.Document

/-!
# Sample files

A sample file holds one object or a list of objects that is not empty. Any other content, and a
file that cannot be read, is refused with a reason that names the file as it was given. Two faults
are no refusal and pass through as they are: an integer with too many digits, and a name that is too
long to ask about. The samples are given as they are read, halves of surrogate pairs included.
-/

namespace SampleSchema

/-- Why a sample file is refused. -/
inductive SampleFault where
  | notFound (file : String)
  | malformed (file : String) (fault : DocumentFault)
  | unreadable (file : String) (fault : FileFault)
  | noSamples (file : String)
  | notObjects (file : String)
  | wrongKind (file kindName : String)
  deriving DecidableEq, Repr

/-- The text of a refusal. -/
def SampleFault.message : SampleFault → String
  | .notFound file => "File not found: " ++ file
  | .malformed file fault => "Failed to parse JSON file " ++ file ++ ": " ++ fault.message
  | .unreadable file fault => "Failed to read " ++ file ++ ": " ++ fault.message
  | .noSamples file => "No sample documents in " ++ file
  | .notObjects file => "Expected an array of objects in " ++ file
  | .wrongKind file kindName =>
    "Expected a JSON object or an array of objects in " ++ file ++ ", got " ++ kindName

/-- What ends the reading of a sample file. -/
inductive SampleFileFault where
  | refused (fault : SampleFault)
  | tooManyDigits (count : Nat)
  | file (fault : FileFault)
  deriving DecidableEq, Repr

/-- The text of a fault. -/
def SampleFileFault.message : SampleFileFault → String
  | .refused fault => fault.message
  | .tooManyDigits count => tooManyDigitsMessage count
  | .file fault => fault.message

/-- A fault in the document of a sample file. -/
def SampleFileFault.ofDocument (file : String) : DocumentFault → SampleFileFault
  | .file fault =>
    if fault.error = .nullCharacter then .file fault else .refused (.unreadable file fault)
  | .encoding fault => .refused (.malformed file (.encoding fault))
  | .content (.tooManyDigits count) => .tooManyDigits count
  | .content fault => .refused (.malformed file (.content fault))

/-- The samples that a value holds: an object, or a list of objects that is not empty. -/
def JsonOf.sampleDocuments {τ : Type} (file : String) : JsonOf τ → Except SampleFault (JsonOf τ)
  | .obj members => .ok (.obj members)
  | .arr [] => .error (.noSamples file)
  | .arr (v :: rest) =>
    if (v :: rest).all (·.isObject) then .ok (.arr (v :: rest)) else .error (.notObjects file)
  | v => .error (.wrongKind file v.kindName)

/-- **The samples in a file.** -/
def readSamples (tree : FileTree) (file : String) : Except SampleFileFault RawJson :=
  let path := Path.ofText file
  match tree.isFile path with
  | .error fault => .error (.file fault)
  | .ok false => .error (.refused (.notFound file))
  | .ok true =>
    match tree.readJson path with
    | .error fault => .error (.ofDocument file fault)
    | .ok v =>
      match v.sampleDocuments file with
      | .error fault => .error (.refused fault)
      | .ok v => .ok v

end SampleSchema
