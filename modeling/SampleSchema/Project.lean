import SampleSchema.FileTree.Access
import SampleSchema.Generation
import SampleSchema.Settings

/-!
# A project and its generated files

What is generated for a type goes into three files of the project: the model module, the API schema
and the resolver module, each named after the type, in a directory of its kind. Unless it is forced,
nothing is written while one of the three is there already; the refusal names those that are.

The three texts may come from anywhere (`Artifacts`), so they can hold halves of surrogate pairs,
for which writing fails. Those of a `Generation` are texts of characters.
-/

namespace SampleSchema

/-- A project: its directory, and where generated files go below it. -/
structure Project where
  root : Path
  output : OutputSettings := {}
  deriving DecidableEq, Repr

/-- The files of one type. -/
structure Targets where
  model : Path
  typedefs : Path
  resolvers : Path
  deriving DecidableEq, Repr

/-- The files, in the order in which they are written. -/
def Targets.all (t : Targets) : List Path := [t.model, t.typedefs, t.resolvers]

/-- The texts of the files of one type. -/
structure Artifacts where
  typeName : String
  model : RawText
  api : RawText
  resolvers : RawText

/-- What is generated for a type, as the texts of its files. -/
def Generation.artifacts (g : Generation) : Artifacts where
  typeName := g.typeName
  model := CodePoint.ofText g.modelText
  api := CodePoint.ofText g.api
  resolvers := CodePoint.ofText g.resolvers

/-- Why nothing more is written. -/
inductive WriteFault where
  /-- Files of the type are there; their paths are seen from the project directory. -/
  | alreadyThere (typeName : String) (files : List Path)
  /-- A file that is there does not lie below the project directory. -/
  | outside (file root : Path)
  | file (fault : FileFault)
  | encoding (fault : EncodingFault)
  deriving DecidableEq, Repr

/-- A text that is not written keeps the others from being written. -/
def WriteFault.ofRawText : RawTextFault → WriteFault
  | .file fault => .file fault
  | .encoding fault => .encoding fault

/-- The text of a fault. -/
def WriteFault.message : WriteFault → String
  | .alreadyThere typeName files =>
    "Model " ++ typeName ++ " already exists (" ++ ", ".intercalate (files.map (·.text)) ++
      "); use --force to overwrite"
  | .outside path root => Path.notBelowMessage path root
  | .file fault => fault.message
  | .encoding fault => fault.message

namespace Project

/-- **The files of a type.** -/
def targets (project : Project) (typeName : String) : Targets where
  model := (project.root.join project.output.models).child (typeName ++ ".js")
  typedefs := (project.root.join project.output.typedefs).child (typeName ++ ".graphql")
  resolvers := (project.root.join project.output.resolvers).child (typeName ++ "Resolver.js")

/-- Those of some paths at which something stands. -/
def present (tree : FileTree) : List Path → Except FileFault (List Path)
  | [] => .ok []
  | p :: rest =>
    match tree.isThere p with
    | .error fault => .error fault
    | .ok here =>
      match present tree rest with
      | .error fault => .error fault
      | .ok more => .ok (if here then p :: more else more)

/-- **The files of a type that are there.** -/
def existing (project : Project) (tree : FileTree) (typeName : String) :
    Except FileFault (List Path) :=
  present tree (project.targets typeName).all

/-- Paths as they are seen from a directory, or the first that does not lie below it. -/
def seenFrom (root : Path) : List Path → Except Path (List Path)
  | [] => .ok []
  | p :: rest =>
    match p.relativeTo? root with
    | none => .error p
    | some near =>
      match seenFrom root rest with
      | .error other => .error other
      | .ok more => .ok (near :: more)

/-- What keeps the files of a type from being written. -/
def obstacle? (project : Project) (tree : FileTree) (typeName : String) (force : Bool) :
    Option WriteFault :=
  match project.existing tree typeName with
  | .error fault => some (.file fault)
  | .ok [] => none
  | .ok (file :: more) =>
    if force then none
    else
      match seenFrom project.root (file :: more) with
      | .error path => some (.outside path project.root)
      | .ok files => some (.alreadyThere typeName files)

/-- Write texts to paths, in order. -/
def writeAll : List (Path × RawText) → EStateM RawTextFault FileTree Unit
  | [] => pure ()
  | (p, text) :: rest => do
    FileTree.writeRawText p text
    writeAll rest

/-- What is written for a type: each file and its text. -/
def files (project : Project) (artifacts : Artifacts) : List (Path × RawText) :=
  let targets := project.targets artifacts.typeName
  [(targets.model, artifacts.model), (targets.typedefs, artifacts.api),
    (targets.resolvers, artifacts.resolvers)]

/-- **Write the files of a type**, and give their paths. -/
def writeArtifacts (project : Project) (artifacts : Artifacts) (force : Bool) :
    EStateM WriteFault FileTree (List Path) := fun tree =>
  match project.obstacle? tree artifacts.typeName force with
  | some fault => .error fault tree
  | none =>
    match writeAll (project.files artifacts) tree with
    | .ok () tree' => .ok (project.targets artifacts.typeName).all tree'
    | .error fault tree' => .error (.ofRawText fault) tree'

/-- **Write what is generated for a type**, and give the paths of its files. -/
def write (project : Project) (g : Generation) (force : Bool) :
    EStateM WriteFault FileTree (List Path) := project.writeArtifacts g.artifacts force

end Project

end SampleSchema
