import SampleSchema.FileTree
import SampleSchema.Path
import SampleSchema.Text.Utf8

/-!
# Reading and changing files by their paths

A path is walked from the working directory or from the root, one name after the other; every name
but the last has to lead to a directory, and `..` leads up. What an action does to the tree before
it fails stays done: its result carries the tree in either case.

A file is written below directories that are made where they are missing, the outermost first
(`makeDirectories`). An entry that stands in the way of a directory is only a fault if it is none
itself. A text is encoded when its file is open already: one with half of a surrogate pair leaves
an empty file (`writeRawText`).

Permissions are left out but for one: the files of a tree can be read, or none of them can. Every
directory can be searched and changed, and every file replaced, so asking for an entry, making a
directory and opening a file for writing are never denied.
-/

namespace SampleSchema

/-! ## 1. Faults -/

/-- Why an action on a path fails. -/
inductive FileError where
  | missing
  | denied
  | alreadyThere
  | notADirectory
  | isADirectory
  | nameTooLong
  /-- The path holds a null character, which no name can. -/
  | nullCharacter
  deriving DecidableEq, Repr

/-- An action on a path that failed. -/
structure FileFault where
  error : FileError
  path : Path
  deriving DecidableEq, Repr

/-- The text of a fault. -/
def FileFault.message (f : FileFault) : String :=
  let onPath (head : String) := head ++ ": " ++ quoted f.path.text
  match f.error with
  | .missing => onPath "[Errno 2] No such file or directory"
  | .denied => "[Errno 13] Permission denied"
  | .alreadyThere => onPath "[Errno 17] File exists"
  | .notADirectory => onPath "[Errno 20] Not a directory"
  | .isADirectory => onPath "[Errno 21] Is a directory"
  | .nameTooLong => onPath "[Errno 36] File name too long"
  | .nullCharacter => "embedded null byte"

/-- Why a text is not written. -/
inductive RawTextFault where
  | file (fault : FileFault)
  | encoding (fault : EncodingFault)
  deriving DecidableEq, Repr

/-- An action that may change the tree and may fail. -/
abbrev FileAction (α : Type) := EStateM FileFault FileTree α

namespace FileTree

/-! ## 2. Walking -/

/-- The greatest number of bytes in a name. -/
def maxNameBytes : Nat := 255

/-- The greatest number of bytes in a path. -/
def maxPathBytes : Nat := 4095

/-- One name further on the way; what was reached so far has to be a directory. -/
def step (tree : FileTree) (loc : Location) (part : String) : Except FileError Location :=
  match tree.find? loc with
  | none => .error .missing
  | some (.file _) => .error .notADirectory
  | some .directory =>
    if part = ".." then .ok loc.tail
    else if maxNameBytes < part.utf8ByteSize then .error .nameTooLong
    else .ok (part :: loc)

/-- Where a path starts. -/
def start (tree : FileTree) (p : Path) : Location :=
  if p.root = .relative then tree.here else []

/-- **The location that a path leads to**; nothing needs to stand there. -/
def locate (tree : FileTree) (p : Path) : Except FileError Location :=
  if p.text.toList.contains '\x00' then .error .nullCharacter
  else if maxPathBytes < p.text.utf8ByteSize then .error .nameTooLong
  else p.parts.foldlM tree.step (tree.start p)

/-- What a path leads to. -/
def entryAt (tree : FileTree) (p : Path) : Except FileError Entry :=
  match tree.locate p with
  | .error e => .error e
  | .ok loc =>
    match tree.find? loc with
    | some e => .ok e
    | none => .error .missing

/-- A question about what a path leads to; where it leads nowhere, the answer is no. Only a name
    that is too long is a fault. -/
def ask (tree : FileTree) (p : Path) (question : Entry → Bool) : Except FileFault Bool :=
  match tree.entryAt p with
  | .ok e => .ok (question e)
  | .error .nameTooLong => .error ⟨.nameTooLong, p⟩
  | .error _ => .ok false

/-- Does anything stand at a path? -/
def isThere (tree : FileTree) (p : Path) : Except FileFault Bool := tree.ask p fun _ => true

/-- Does a file stand at a path? -/
def isFile (tree : FileTree) (p : Path) : Except FileFault Bool :=
  tree.ask p fun e => e ≠ .directory

/-- Does a directory stand at a path? -/
def isDirectory (tree : FileTree) (p : Path) : Bool :=
  match tree.entryAt p with
  | .ok .directory => true
  | _ => false

/-! ## 3. Reading -/

/-- **The bytes of the file at a path.** -/
def readFile (tree : FileTree) (p : Path) : Except FileFault (List UInt8) :=
  match tree.entryAt p with
  | .error e => .error ⟨e, p⟩
  | .ok .directory => .error ⟨.isADirectory, p⟩
  | .ok (.file bytes) => if tree.readable then .ok bytes else .error ⟨.denied, p⟩

/-! ## 4. Changing -/

/-- Put a file or a directory where a path leads, unless a directory stands there. -/
def place (p : Path) (loc : Location) (e : Entry) : FileAction Unit := fun tree =>
  match loc with
  | [] => .error ⟨.isADirectory, p⟩ tree
  | name :: up =>
    match tree.insert? name up e with
    | some tree' => .ok () tree'
    | none => .error ⟨.isADirectory, p⟩ tree

/-- **Write a file**; its directory has to be there. -/
def writeFile (p : Path) (bytes : List UInt8) : FileAction Unit := fun tree =>
  match tree.locate p with
  | .error e => .error ⟨e, p⟩ tree
  | .ok loc => place p loc (.file bytes) tree

/-- Make one directory, where nothing stands yet. -/
def makeDirectory (p : Path) : FileAction Unit := fun tree =>
  match tree.locate p with
  | .error e => .error ⟨e, p⟩ tree
  | .ok loc =>
    match tree.find? loc with
    | some _ => .error ⟨.alreadyThere, p⟩ tree
    | none => place p loc .directory tree

/-- Make one directory, unless it is there already. -/
def ensureDirectory (p : Path) : FileAction Unit := fun tree =>
  match makeDirectory p tree with
  | .ok () tree' => .ok () tree'
  | .error fault tree' =>
    if fault.error ≠ .missing ∧ fault.error ≠ .nullCharacter ∧ tree'.isDirectory p then
      .ok () tree'
    else .error fault tree'

/-- The path made of the first names of another one. -/
def outer (p : Path) (n : Nat) : Path where
  root := p.root
  parts := p.parts.take n
  isPathPart part h := p.isPathPart part (List.take_subset _ _ h)

/-- Make the directory of the first `n` names of a path, and those above it where one is missing. -/
def makeOuter (p : Path) : Nat → FileAction Unit
  | 0 => ensureDirectory (outer p 0)
  | n + 1 => fun tree =>
    match ensureDirectory (outer p (n + 1)) tree with
    | .ok () tree' => .ok () tree'
    | .error fault tree' =>
      if fault.error = .missing then
        match makeOuter p n tree' with
        | .ok () tree'' => ensureDirectory (outer p (n + 1)) tree''
        | .error fault tree'' => .error fault tree''
      else .error fault tree'

/-- **Make a directory**, and those above it, where one is missing. -/
def makeDirectories (p : Path) : FileAction Unit := makeOuter p p.parts.length

/-- **Write a text**, below directories that are made where they are missing. -/
def writeText (p : Path) (text : String) : FileAction Unit := do
  makeDirectories p.parent
  writeFile p (Utf8.encode text.toList)

/-- A file action among those that write texts as they were read. -/
def onRawText {α : Type} (action : FileAction α) : EStateM RawTextFault FileTree α := fun tree =>
  match action tree with
  | .ok a tree' => .ok a tree'
  | .error fault tree' => .error (.file fault) tree'

/-- **Write a text as it was read**, below directories that are made where they are missing. The
    file is made or emptied before the text is encoded. -/
def writeRawText (p : Path) (text : RawText) : EStateM RawTextFault FileTree Unit := do
  onRawText (makeDirectories p.parent)
  onRawText (writeFile p [])
  match Utf8.encodeRaw text with
  | .ok bytes => onRawText (writeFile p bytes)
  | .error fault => throw (.encoding fault)

/-- Make a directory the working directory. -/
def enterDirectory (p : Path) : FileAction Unit := fun tree =>
  match tree.locate p with
  | .error e => .error ⟨e, p⟩ tree
  | .ok loc =>
    match tree.enter? loc with
    | some tree' => .ok () tree'
    | none => .error ⟨.notADirectory, p⟩ tree

/-- **Remove a file.** -/
def removeFile (p : Path) : FileAction Unit := fun tree =>
  match tree.locate p with
  | .error e => .error ⟨e, p⟩ tree
  | .ok loc =>
    match tree.find? loc, tree.remove? loc with
    | none, _ => .error ⟨.missing, p⟩ tree
    | some _, none => .error ⟨.isADirectory, p⟩ tree
    | some _, some tree' => .ok () tree'

end FileTree

end SampleSchema
