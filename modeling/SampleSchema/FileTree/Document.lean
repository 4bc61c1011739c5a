import SampleSchema.FileTree.Access
import SampleSchema.Json.Reader
import SampleSchema.Settings

/-!
# Documents in files

A file read as text, as JSON, or as settings. The bytes are decoded and line ends folded before a
text is looked at, so positions in it count folded line ends as one character.
-/

namespace SampleSchema

/-- Why a file gives no document. -/
inductive DocumentFault where
  | file (fault : FileFault)
  | encoding (fault : DecodingFault)
  | content (fault : ReadFault)
  deriving DecidableEq, Repr

/-- The text of a fault. -/
def DocumentFault.message : DocumentFault → String
  | .file fault => fault.message
  | .encoding fault => fault.message
  | .content fault => fault.message

namespace FileTree

/-- **The text in a file.** -/
def readText (tree : FileTree) (p : Path) : Except DocumentFault (List Char) :=
  match tree.readFile p with
  | .error fault => .error (.file fault)
  | .ok bytes =>
    match Utf8.decode bytes with
    | .error fault => .error (.encoding fault)
    | .ok text => .ok (foldLineEnds text)

/-- **The JSON value in a file**, as it is read. -/
def readJson (tree : FileTree) (p : Path) : Except DocumentFault RawJson :=
  match tree.readText p with
  | .error fault => .error fault
  | .ok text =>
    match RawJson.read text with
    | .error fault => .error (.content fault)
    | .ok v => .ok v

end FileTree

/-! ## Settings in files -/

/-- Why a file gives no settings. -/
inductive SettingsFault where
  | document (fault : DocumentFault)
  | invalid (faults : List Fault)
  deriving DecidableEq, Repr

namespace Settings

/-- **Save settings**, below directories that are made where they are missing. -/
def save (s : Settings) (p : Path) : FileAction Unit := FileTree.writeText p s.fileText

/-- **The settings saved in a file.** -/
def load (tree : FileTree) (p : Path) : Except SettingsFault Settings :=
  match tree.readText p with
  | .error fault => .error (.document fault)
  | .ok text =>
    match ofFileText text with
    | .error faults => .error (.invalid faults)
    | .ok s => .ok s

end Settings

end SampleSchema
