import SampleSchema.Text.DecimalDigit
import SampleSchema.Text.Quoted
import SampleSchema.Text.Segments

/-!
# The command line

There is one command, `import`, with a file and options. Words are first CLASSED, all of them: a
word is an option, an argument, or the marker `--`, behind which every word is an argument. Long
options may be cut short as long as one option is meant, short ones may be joined, and a value may
follow its option in the same word or in the next. Then the words are taken in order. What nobody
takes is reported at the end; a help option ends the reading at once.
-/

namespace SampleSchema

/-! ## 1. Options -/

/-- What an option does. -/
inductive OptionAction where
  | help
  | name
  | force
  | preview
  | projectRoot
  deriving DecidableEq, Repr

/-- An option and the words for it. -/
structure CommandOption where
  action : OptionAction
  spellings : List String
  takesValue : Bool
  deriving DecidableEq, Repr

/-- The option that asks for help. -/
def helpOption : CommandOption := ⟨.help, ["-h", "--help"], false⟩

/-- The two places of words: before the name of the command, and behind it. Each has options of its
    own. -/
inductive CommandScope where
  | program
  | importCommand
  deriving DecidableEq, Repr

/-- The options of a place. -/
def CommandScope.options : CommandScope → List CommandOption
  | .program => [helpOption]
  | .importCommand =>
    [helpOption, ⟨.name, ["--name", "-n"], true⟩, ⟨.force, ["--force", "-f"], false⟩,
      ⟨.preview, ["--preview", "-p"], false⟩, ⟨.projectRoot, ["--project-root"], true⟩]

/-- All spellings with their options, in order. -/
def CommandScope.spellings (scope : CommandScope) : List (String × CommandOption) :=
  scope.options.flatMap fun o => o.spellings.map fun s => (s, o)

/-! ## 2. Faults -/

/-- What is wrong with the words. -/
inductive UsageError where
  | ambiguous (word : String) (candidates : List String)
  | unusedValue (option : CommandOption) (value : String)
  | noValue (option : CommandOption)
  | required (name : String)
  | unknownCommand (word : String)
  | unrecognized (words : List String)
  deriving DecidableEq, Repr

/-- What is wrong, and where. -/
structure UsageFault where
  scope : CommandScope
  error : UsageError
  deriving DecidableEq, Repr

/-- An option as messages name it. -/
def CommandOption.title (o : CommandOption) : String := "/".intercalate o.spellings

/-- The text of a fault. -/
def UsageError.message : UsageError → String
  | .ambiguous word candidates =>
    "ambiguous option: " ++ word ++ " could match " ++ ", ".intercalate candidates
  | .unusedValue option value =>
    "argument " ++ option.title ++ ": ignored explicit argument " ++ quoted value
  | .noValue option => "argument " ++ option.title ++ ": expected one argument"
  | .required name => "the following arguments are required: " ++ name
  | .unknownCommand word =>
    "argument command: invalid choice: " ++ quoted word ++ " (choose from 'import')"
  | .unrecognized words => "unrecognized arguments: " ++ " ".intercalate words

/-! ## 3. Classing words -/

/-- What a word is. -/
inductive Word where
  | argument (text : String)
  /-- The marker behind which every word is an argument. -/
  | marker
  | unknownOption (text : String)
  /-- An option, how it is spelled, and the value in the same word. -/
  | option (option : CommandOption) (spelling : String) (value : Option String)
  deriving DecidableEq, Repr

/-- The text before and behind the first equals sign. -/
def splitAtEquals (word : String) : String × Option String :=
  let cs := word.toList
  match cs.dropWhile (· ≠ '=') with
  | [] => (word, none)
  | _ :: value => (String.ofList (cs.takeWhile (· ≠ '=')), some (String.ofList value))

/-- The options that a word may stand for. A long one may be cut short, before an equals sign; a
    short one may have its value or more short options behind it. -/
def candidates (scope : CommandScope) (word : String) : List Word :=
  match word.toList with
  | '-' :: '-' :: _ =>
    let (start, value) := splitAtEquals word
    (scope.spellings.filter fun (s, _) => start.toList.isPrefixOf s.toList).map fun (s, o) =>
      .option o s value
  | '-' :: c :: rest =>
    scope.spellings.filterMap fun (s, o) =>
      if s.toList = ['-', c] then some (.option o s (some (String.ofList rest)))
      else if word.toList.isPrefixOf s.toList then some (.option o s none)
      else none
  | _ => []

/-- Does a word look like a negative number? A line end behind it does no harm. -/
def looksNegative (word : String) : Bool :=
  let cs := match word.toList.reverse with
    | '\n' :: more => more.reverse
    | _ => word.toList
  match cs with
  | '-' :: body =>
    match body.dropWhile isDecimalDigit with
    | [] => !body.isEmpty
    | '.' :: fraction => !fraction.isEmpty && fraction.all isDecimalDigit
    | _ => false
  | _ => false

/-- The option of a spelling. -/
def CommandScope.find? (scope : CommandScope) (spelling : String) : Option CommandOption :=
  scope.spellings.lookup spelling

/-- The spelling in a word of an option. -/
def Word.spelling : Word → String
  | .option _ spelling _ => spelling
  | _ => ""

/-- A word that begins with a hyphen and is no option by its full name. -/
def classifyDashed (scope : CommandScope) (word : String) : Except UsageError Word :=
  match splitAtEquals word with
  | (start, some value) =>
    match scope.find? start with
    | some o => .ok (.option o start (some value))
    | none => byCandidates
  | (_, none) => byCandidates
where
  /-- By the options that the word may stand for. -/
  byCandidates : Except UsageError Word :=
    match candidates scope word with
    | [w] => .ok w
    | [] =>
      if looksNegative word || word.toList.contains ' ' then .ok (.argument word)
      else .ok (.unknownOption word)
    | ws => .error (.ambiguous word (ws.map (·.spelling)))

/-- **What one word is.** -/
def classify (scope : CommandScope) (word : String) : Except UsageError Word :=
  match word.toList with
  | '-' :: _ :: _ =>
    match scope.find? word with
    | some o => .ok (.option o word none)
    | none => classifyDashed scope word
  | _ => .ok (.argument word)

/-- **What all words are.** -/
def classifyAll (scope : CommandScope) : List String → Except UsageError (List Word)
  | [] => .ok []
  | word :: rest =>
    if word = "--" then .ok (.marker :: rest.map .argument)
    else
      match classify scope word with
      | .error e => .error e
      | .ok w =>
        match classifyAll scope rest with
        | .error e => .error e
        | .ok ws => .ok (w :: ws)

/-- A classed word as it was written, where that is asked for. -/
def Word.text : Word → String
  | .argument text => text
  | .marker => "--"
  | .unknownOption text => text
  | .option _ spelling _ => spelling

/-! ## 4. Joined options -/

/-- Options in one word: those without a value, and the last one with what is left of the word. -/
structure JoinedOptions where
  flags : List CommandOption
  last : CommandOption
  value : Option String

/-- An option with text behind it in the same word. An option that takes a value takes that text;
    behind a short one that takes none, each character is a short option of its own. -/
def joined (scope : CommandScope) (flags : List CommandOption) (o : CommandOption) (short : Bool) :
    List Char → Except UsageError JoinedOptions
  | [] =>
    if o.takesValue then .ok ⟨flags, o, some ""⟩ else .error (.unusedValue o "")
  | c :: rest =>
    if o.takesValue then .ok ⟨flags, o, some (String.ofList (c :: rest))⟩
    else if short then
      match scope.find? (String.ofList ['-', c]) with
      | none => .error (.unusedValue o (String.ofList (c :: rest)))
      | some next =>
        if rest.isEmpty then .ok ⟨flags ++ [o], next, none⟩
        else joined scope (flags ++ [o]) next true rest
    else .error (.unusedValue o (String.ofList (c :: rest)))

/-- The options in one word. -/
def expand (scope : CommandScope) (o : CommandOption) (spelling : String) (value : Option String) :
    Except UsageError JoinedOptions :=
  match value with
  | none => .ok ⟨[], o, none⟩
  | some text => joined scope [] o (spelling.length = 2) text.toList

/-! ## 5. The import command -/

/-- What is asked for on the command line. -/
structure ImportCommand where
  file : String
  name : Option String := none
  force : Bool := false
  preview : Bool := false
  projectRoot : Option String := none
  deriving DecidableEq, Repr

/-- How far the words of a command were taken. -/
structure ImportWords where
  file : Option String := none
  name : Option String := none
  force : Bool := false
  preview : Bool := false
  projectRoot : Option String := none
  /-- Words that nobody took. -/
  extras : List String := []

/-- What reading the command line comes to. -/
inductive Request where
  | run (command : ImportCommand)
  | help (scope : CommandScope)
  | refused (fault : UsageFault)
  deriving DecidableEq, Repr

namespace ImportWords

/-- The value of an option; the marker alone is none, also behind an equals sign. The parser of the
    program's language drops it there up to version 3.11.8, and keeps it as a value in later ones. -/
def valueOf (text : String) : Option String := if text = "--" then none else some text

/-- An option taken. -/
def set (ws : ImportWords) (o : CommandOption) (value : String) : ImportWords :=
  match o.action with
  | .help => ws
  | .name => { ws with name := valueOf value }
  | .force => { ws with force := true }
  | .preview => { ws with preview := true }
  | .projectRoot => { ws with projectRoot := valueOf value }

/-- Options without values taken one after the other. -/
def setAll (ws : ImportWords) (flags : List CommandOption) : ImportWords :=
  flags.foldl (fun ws o => ws.set o "") ws

/-- A word that nobody takes. -/
def pass (ws : ImportWords) (text : String) : ImportWords :=
  { ws with extras := ws.extras ++ [text] }

/-- How the taking of words ends. -/
inductive Stop where
  | help
  | error (error : UsageError)

/-- **Take the words of the command**, in order. -/
def take (ws : ImportWords) : List Word → Except Stop ImportWords
  | [] => .ok ws
  | .unknownOption text :: rest => take (ws.pass text) rest
  | .marker :: .argument text :: rest =>
    if ws.file.isNone then take { ws with file := some text } rest
    else take ((ws.pass "--").pass text) rest
  | .marker :: rest => take (ws.pass "--") rest
  | .argument text :: .marker :: rest =>
    if ws.file.isNone then take { ws with file := some text } rest
    else take (ws.pass text) (.marker :: rest)
  | .argument text :: rest =>
    if ws.file.isNone then take { ws with file := some text } rest
    else take (ws.pass text) rest
  | .option o spelling value :: rest =>
    match expand .importCommand o spelling value with
    | .error e => .error (.error e)
    | .ok options =>
      if options.last.takesValue then
        match options.value, rest with
        | some text, rest =>
          if options.flags.any (·.action = .help) then .error .help
          else take ((ws.setAll options.flags).set options.last text) rest
        | none, .argument text :: rest =>
          if options.flags.any (·.action = .help) then .error .help
          else take ((ws.setAll options.flags).set options.last text) rest
        | none, _ => .error (.error (.noValue options.last))
      else if (options.flags ++ [options.last]).any (·.action = .help) then .error .help
      else take (ws.setAll (options.flags ++ [options.last])) rest

end ImportWords

/-- The command behind its name; `extras` are words before it that nobody took. -/
def readImport (extras : List String) (words : List String) : Request :=
  match classifyAll .importCommand words with
  | .error e => .refused ⟨.importCommand, e⟩
  | .ok classed =>
    match ImportWords.take {} classed with
    | .error .help => .help .importCommand
    | .error (.error e) => .refused ⟨.importCommand, e⟩
    | .ok ws =>
      match ws.file with
      | none => .refused ⟨.importCommand, .required "file"⟩
      | some file =>
        let left := extras ++ ws.extras
        if left.isEmpty then .run ⟨file, ws.name, ws.force, ws.preview, ws.projectRoot⟩
        else .refused ⟨.program, .unrecognized left⟩

/-! ## 6. The program -/

/-- The words up to the command, classed, and all words from there on as they are. -/
def readProgram (extras : List String) : List Word → List String → Request
  | .unknownOption text :: rest, _ :: words => readProgram (extras ++ [text]) rest words
  | .option o spelling value :: _, _ =>
    match expand .program o spelling value with
    | .error e => .refused ⟨.program, e⟩
    | .ok _ => .help .program
  | .marker :: .argument _ :: _, _ => .refused ⟨.program, .unknownCommand "--"⟩
  | .argument text :: _, _ :: words =>
    if text = "import" then readImport extras words
    else .refused ⟨.program, .unknownCommand text⟩
  | _, _ => .refused ⟨.program, .required "command"⟩

/-- **What the words of the command line ask for.** -/
def Request.ofWords (words : List String) : Request :=
  match classifyAll .program words with
  | .error e => .refused ⟨.program, e⟩
  | .ok classed => readProgram [] classed words

/-! ## 7. Texts -/

/-- The words that lead to a place. -/
def CommandScope.title : CommandScope → String
  | .program => "aapi"
  | .importCommand => "aapi import"

/-- The line that shows how a command is used. -/
def CommandScope.usage : CommandScope → String
  | .program => "usage: aapi [-h] \x7bimport\x7d ...\n"
  | .importCommand =>
    "usage: aapi import [-h] [--name NAME] [--force] [--preview] " ++
      "[--project-root PROJECT_ROOT] file\n"

/-- The help of a command. -/
def CommandScope.help : CommandScope → String
  | .program =>
    CommandScope.program.usage ++ "\n" ++
      "Generate Mongoose and GraphQL code from sample JSON documents\n\n" ++
      "positional arguments:\n" ++
      "  \x7bimport\x7d\n" ++
      "    import    Generate a model, GraphQL schema and resolvers from a JSON file\n\n" ++
      "options:\n" ++
      "  -h, --help  show this help message and exit\n\n" ++
      "Examples:\n" ++
      "  aapi import users.json\n" ++
      "  aapi import data/products.json --name Product --preview\n" ++
      "  aapi import users.json --force\n"
  | .importCommand =>
    CommandScope.importCommand.usage ++ "\n" ++
      "positional arguments:\n" ++
      "  file                  Path to a JSON object or array of objects\n\n" ++
      "options:\n" ++
      "  -h, --help            show this help message and exit\n" ++
      "  --name NAME, -n NAME  Model name (derived from the file name if omitted)\n" ++
      "  --force, -f           Overwrite existing model files\n" ++
      "  --preview, -p         Show the generated code without writing files\n" ++
      "  --project-root PROJECT_ROOT\n" ++
      "                        Project directory to write into (default: current directory)\n"

/-- The text of a fault, behind the usage of the command. -/
def UsageFault.text (f : UsageFault) : String :=
  f.scope.usage ++ f.scope.title ++ ": error: " ++ f.error.message ++ "\n"

end SampleSchema
