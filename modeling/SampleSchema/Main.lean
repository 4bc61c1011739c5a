import SampleSchema.Program

/-!
# The command line of the program

A run is decided on a file tree (`Program.run`); here the tree is taken from the disk and put back.
Only what a run may ask about is looked at: the sample file, the files of the type, and all
directories above them.
-/

namespace SampleSchema.Main

/-- The files that a run may ask about, the sample file first. -/
def askedFiles (env : Environment) : Request → List Path
  | .run command =>
    match env.settings with
    | .ok settings =>
      let project : Project := ⟨command.root settings, settings.output⟩
      .ofText command.file :: (project.targets command.typeName).all
    | .error _ => []
  | _ => []

/-- The paths that lead to another one, the outermost first, and itself. -/
def leadingTo (p : Path) : List Path :=
  (List.range (p.parts.length + 1)).map (FileTree.outer p)

/-- A tree after an action, as far as the action came. -/
def done (tree : FileTree) (action : FileAction Unit) : FileTree :=
  match action tree with
  | .ok () tree => tree
  | .error _ tree => tree

/-- A tree with what stands on the disk at a path; a file that cannot be read is empty. What is
    neither a file nor missing is a directory, unless a file stands above it. -/
def look (tree : FileTree) (p : Path) : IO FileTree := do
  try
    let bytes ← IO.FS.readBinFile p.text
    pure (done tree (FileTree.writeFile p bytes.toList))
  catch
    | .inappropriateType .. => pure (done tree (FileTree.makeDirectories p))
    | .permissionDenied .. => pure (done tree (FileTree.writeFile p []))
    | _ => pure tree

/-- Is reading a file denied? -/
def isDenied (p : Path) : IO Bool := do
  try
    discard (IO.FS.readBinFile p.text)
    pure false
  catch
    | .permissionDenied .. => pure true
    | _ => pure false

/-- The tree on the disk, as far as the paths of some files lead into it. -/
def looked (files : List Path) : IO FileTree := do
  let here := Path.ofText (← IO.currentDir).toString
  let tree := done .empty (FileTree.makeDirectories here)
  let tree := done tree (FileTree.enterDirectory here)
  let tree ← (files.flatMap leadingTo).foldlM look tree
  let denied ← (files.take 1).anyM isDenied
  pure { tree with readable := !denied }

/-- Put what stands at a location on the disk. -/
def store (loc : Location) (e : Entry) : IO Unit := do
  let text := "/" ++ "/".intercalate loc.reverse
  match e with
  | .directory => IO.FS.createDirAll text
  | .file bytes => IO.FS.writeBinFile text ⟨bytes.toArray⟩

/-- Put on the disk what a run changed. -/
def storeChanges (before after : FileTree) : IO Unit :=
  (after.entries.filter fun entry => !before.entries.contains entry).forM fun (loc, e) =>
    store loc e

/-- The environment that settings are read from. -/
def environment : IO Environment := do
  let names := ["AAPI_PROJECT_ROOT", "AAPI_SAMPLE_LIMIT", "AAPI_REQUIRED_THRESHOLD",
    "AAPI_SAMPLE_VALUE_LIMIT"]
  names.filterMapM fun name => do
    pure ((← IO.getEnv name).map fun value => (name, value))

/-- The screen that a run prints on: as wide as the environment says, or else eighty columns. -/
def screen : IO Screen := do
  let columns := (← IO.getEnv "COLUMNS").bind (·.toNat?)
  pure (.plain (columns.getD 80))

/-- Finish a run: store what it changed, and print what it printed. -/
def finish (before : FileTree) (session : Session) : IO Unit := do
  storeChanges before session.tree
  IO.print session.out
  IO.eprint session.err

end SampleSchema.Main

open SampleSchema

/-- **The program.** -/
def main (words : List String) : IO UInt32 := do
  let env ← Main.environment
  let tree ← Main.looked (Main.askedFiles env (.ofWords words))
  match Program.run (← Main.screen) words env tree with
  | .ok code session =>
    Main.finish tree session
    pure (UInt32.ofNat code)
  | .error failure session =>
    Main.finish tree session
    IO.eprintln failure.message
    pure 1
