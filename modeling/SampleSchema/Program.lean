import SampleSchema.CommandLine
import SampleSchema.Console.Report
import SampleSchema.Project
import SampleSchema.SampleFile
import SampleSchema.Settings.Environment

/-!
# The program

One run: from the words of the command line, the environment and a file tree to what is printed, an
exit code and the tree that is left (`Program.run`). A run reads the sample file, finds the type
name, generates everything for it, and then either shows it or writes it into the project.

What the user can mend ends a run with a message and the code 1: a sample file that is refused, a
name that is none, files that are there already. Any other fault is a FAILURE; it ends the run
without a code, and what was printed and written until then stays.

A key of the samples can hold half of a surrogate pair. Such a field can be neither shown nor
written: a preview of it fails, and an import as well, once its first file is open and empty. The
texts of such a run are left out here, both what is printed before it fails and what could not be
encoded (`unencodable`). A half in a value is shown, in the table of fields, as an escape in ASCII;
here the escape of the replacement character stands for it. Nothing else depends on it.
-/

namespace SampleSchema

/-! ## 1. Runs -/

/-- A fault that ends a run without an exit code. -/
inductive Failure where
  | environment (fault : EnvironmentFault)
  | tooManyDigits (count : Nat)
  | file (fault : FileFault)
  | scan (fault : ScanFault)
  | outside (file root : Path)
  /-- A text to be printed or written holds half of a surrogate pair. -/
  | encoding
  | markup (fault : MarkupFault)
  deriving DecidableEq, Repr

/-- The text of a failure. -/
def Failure.message : Failure → String
  | .environment fault => fault.message
  | .tooManyDigits count => tooManyDigitsMessage count
  | .file fault => fault.message
  | .scan fault => fault.message
  | .outside path root => Path.notBelowMessage path root
  | .encoding => "surrogates not allowed"
  | .markup fault => fault.message

/-- What a run has printed, and the file tree as it stands. -/
structure Session where
  tree : FileTree
  out : String := ""
  err : String := ""

/-- A step of a run. -/
abbrev RunAction (α : Type) := EStateM Failure Session α

/-- What a command asks for as the type name: the given one, or else the one that the file name
    suggests. -/
def ImportCommand.typeName (command : ImportCommand) : String :=
  match command.name with
  | some name => if name.isEmpty then derivedTypeName (.ofText command.file) else name
  | none => derivedTypeName (.ofText command.file)

/-- The project directory that a command is about. -/
def ImportCommand.root (command : ImportCommand) (settings : Settings) : Path :=
  match command.projectRoot with
  | some text => if text.isEmpty then settings.projectRoot else .ofText text
  | none => settings.projectRoot

namespace Program

variable (screen : Screen)

/-- Print a text. -/
def print (text : String) : RunAction Unit :=
  modify fun session => { session with out := session.out ++ text }

/-- Print a text for the console. -/
def report (printed : Printed) : RunAction Unit :=
  match printed with
  | .ok text => print text
  | .error fault => throw (.markup fault)

/-- Print texts for the console, in order. -/
def reportAll (texts : List Printed) : RunAction Unit := texts.forM report

/-! ## 2. What is shown -/

/-- The title of the table of counts. -/
def countsTitle : String := "Schema Summary"

/-- The title of the table of fields. -/
def fieldsTitle : String := "Detected Fields"

/-- What a preview shows. -/
def previewTexts (g : Generation) : List Printed :=
  [Console.success screen "Schema analyzed successfully!",
    Console.summaryTable screen countsTitle
      [("Model name", .str g.typeName), ("Total fields", .int g.counts.total),
        ("Required fields", .int g.counts.required), ("Optional fields", .int g.counts.optional)],
    Console.fieldsTable screen fieldsTitle g.model,
    Console.heading screen "Generated Mongoose Schema", .ok (Console.code g.storage),
    Console.heading screen "Generated GraphQL Schema", .ok (Console.code g.api),
    .ok Console.emptyLine,
    Console.warning screen "To create files, run without --preview"]

/-- The line of a written file. -/
def fileLine (file : Path) : Printed :=
  Console.markup screen ("  [cyan]- " ++ Console.literal file.text ++ "[/cyan]")

/-- What is shown when the files of a type are written. -/
def importedTexts (g : Generation) (files : List Path) : List Printed :=
  [Console.success screen (g.typeName ++ " imported successfully!"),
    Console.summaryTable screen countsTitle
      [("Total fields", .int g.counts.total), ("Required", .int g.counts.required),
        ("Optional", .int g.counts.optional)],
    Console.markup screen "[bold]Files created:[/bold]"] ++
  files.map (fileLine screen) ++
  [.ok Console.emptyLine, Console.fieldsTable screen fieldsTitle g.model,
    Console.warning screen "Remember to restart your server if it's currently running."]

/-- What is shown of a name that is no type name. -/
def wrongNameTexts (typeName : String) (fault : TypeNameFault) : List Printed :=
  [Console.error screen ("Invalid model name: " ++ fault.message),
    Console.markup screen ("[yellow]Derived name: \"" ++ Console.literal typeName ++ "\"[/yellow]"),
    Console.markup screen "[dim]Use --name to specify a custom name[/dim]"]

/-! ## 3. Steps -/

/-- A refusal, with its reason. -/
def refuse (reason : String) : RunAction Nat := do
  report (Console.error screen ("Import failed: " ++ reason))
  pure 1

/-- Can the keys be printed and written that are looked at under given settings? -/
def keysAreTexts (settings : InferenceSettings) (samples : RawJson) : Bool :=
  let documents := match samples with
    | .arr items => items
    | v => [v]
  (documents.take settings.sampleLimit).all fun v =>
    v.members.all fun entry => (CodePoint.text? entry.1).isSome

/-- Everything that is generated for a type from samples, if it can be printed and written. -/
def generated (settings : InferenceSettings) (typeName : String) (samples : RawJson) :
    Except ScanFault (Option Generation) :=
  match Generation.ofJson typeName settings keepFirst samples.replaced with
  | .error fault => .error fault
  | .ok g => .ok (if keysAreTexts settings samples then some (Id.run g) else none)

/-- Show what would be written. -/
def preview (g : Generation) : RunAction Nat := do
  reportAll (previewTexts screen g)
  pure 0

/-- Report the written files, as they are seen from the project directory. -/
def reportWritten (root : Path) (g : Generation) (files : List Path) : RunAction Nat :=
  match Project.seenFrom root files with
  | .ok files => do
    reportAll (importedTexts screen g files)
    pure 0
  | .error path => throw (.outside path root)

/-- **Write the files of a type into a project**, and go on with their paths. -/
def write (project : Project) (artifacts : Artifacts) (force : Bool)
    (goOn : List Path → RunAction Nat) : RunAction Nat := fun session =>
  match project.writeArtifacts artifacts force session.tree with
  | .ok files tree => goOn files { session with tree := tree }
  | .error (.outside path root) tree =>
    .error (.outside path root) { session with tree := tree }
  | .error (.file fault) tree => .error (.file fault) { session with tree := tree }
  | .error (.encoding _) tree => .error .encoding { session with tree := tree }
  | .error fault tree => refuse screen fault.message { session with tree := tree }

/-- The files of a type whose model has a key that cannot be encoded. Which texts they are makes no
    difference, since the first of them is not written. -/
def unencodable (typeName : String) : Artifacts where
  typeName := typeName
  model := [.half ⟨0, Nat.zero_lt_succ _⟩]
  api := []
  resolvers := []

/-- Preview or write what is generated. -/
def deliver (command : ImportCommand) (settings : Settings) : Option Generation → RunAction Nat
  | some g =>
    if command.preview then preview screen g
    else
      write screen ⟨command.root settings, settings.output⟩ g.artifacts command.force
        (reportWritten screen (command.root settings) g)
  | none =>
    if command.preview then throw .encoding
    else
      write screen ⟨command.root settings, settings.output⟩ (unencodable command.typeName)
        command.force fun _ => throw .encoding

/-- **The import command.** -/
def importSamples (command : ImportCommand) (settings : Settings) : RunAction Nat := do
  match readSamples (← get).tree command.file with
  | .error (.refused fault) => refuse screen fault.message
  | .error (.tooManyDigits count) => throw (.tooManyDigits count)
  | .error (.file fault) => throw (.file fault)
  | .ok samples =>
    match typeNameFault? command.typeName with
    | some fault => do
      reportAll (wrongNameTexts screen command.typeName fault)
      pure 1
    | none =>
      match generated settings.inference command.typeName samples with
      | .error fault => throw (.scan fault)
      | .ok made => deliver screen command settings made

/-- A request of the command line carried out. -/
def perform (env : Environment) : Request → RunAction Nat
  | .help scope => do
    print scope.help
    pure 0
  | .refused fault => do
    modify fun session => { session with err := session.err ++ fault.text }
    pure 2
  | .run command =>
    match env.settings with
    | .ok settings => importSamples screen command settings
    | .error fault => throw (.environment fault)

/-- **A run of the program.** -/
def run (words : List String) (env : Environment) (tree : FileTree) :
    EStateM.Result Failure Session Nat :=
  perform screen env (.ofWords words) { tree := tree }

end Program

end SampleSchema
