import SampleSchema.Console.Table
import SampleSchema.FieldModel
import SampleSchema.Json.Printer
import SampleSchema.Text.Segments

/-!
# What is reported on the console

Messages, headings, tables and code, as the texts that appear. What comes from a user is made
literal before it is put between tags; the title of a section is markup itself.
-/

namespace SampleSchema

/-- A text for the console, or the fault in its markup. -/
abbrev Printed := Except MarkupFault String

namespace Console

variable (screen : Screen)

/-- Lines of text, each with its end. -/
def linesText (lines : List (List Char)) : String :=
  String.ofList (lines.flatMap fun line => line ++ ['\n'])

/-- A text made literal. -/
def literal (text : String) : String := String.ofList (Markup.escape text.toList)

/-- An empty line. -/
def emptyLine : String := "\n"

/-- Markup printed on lines of its own. -/
def markup (text : String) : Printed :=
  (screen.render text.toList).map fun cs => linesText (brokenLines screen.columns true cs)

/-- A message in a style. -/
def styled (style message : String) : Printed :=
  markup screen ("[" ++ style ++ "]" ++ literal message ++ "[/" ++ style ++ "]")

/-- **A message of success.** -/
def success (message : String) : Printed := styled screen "bold green" message

/-- **A message of failure.** -/
def error (message : String) : Printed := styled screen "bold red" message

/-- **A warning.** -/
def warning (message : String) : Printed := styled screen "bold yellow" message

/-- A rule across a width with a title in its middle. -/
def ruleLine (width : Nat) (title : List Char) : List Char :=
  let title := cutWithEllipsis (width - 4) <|
    withoutTabs tabDistance 0 (title.map fun c => if c = '\n' then ' ' else c)
  let left := (width - columnCount title) / 2 - 1
  let right := width - left - columnCount title - 2
  List.replicate left '─' ++ [' '] ++ title ++ [' '] ++ List.replicate right '─'

/-- **The heading of a section**: an empty line and a rule. -/
def heading (title : String) : Printed :=
  (screen.render ("[bold]" ++ title ++ "[/bold]").toList).map fun cs =>
    emptyLine ++ linesText [ruleLine screen.columns cs]

/-- **A table of labels and values**, with an empty line behind it. A label that occurs again keeps
    its place and takes the later value. -/
def summaryTable (title : String) (rows : List (String × Json)) : Printed :=
  let table : Table :=
    { title := title
      columns := [{ head := "Item", wraps := false }, { head := "Value" }]
      rows := (Entries.ofPairs rows).map fun (label, v) => [literal label, literal v.shown] }
  (table.render screen).map fun ls => linesText ls ++ emptyLine

/-- The row of a field: its key, its type, whether it is required, and its first sample. -/
def fieldRow (p : FieldPreview) : List String :=
  let mark := if p.required then "[red]required[/red]" else "[dim]optional[/dim]"
  let sample := match p.samples with
    | v :: _ => v.sampleText
    | [] => ""
  [literal p.key, literal p.api, mark, literal sample]

/-- **A table of the fields of a model.** -/
def fieldsTable (title : String) (model : FieldModel) : Printed :=
  let table : Table :=
    { title := title
      columns := [{ head := "Field", wraps := false }, { head := "Type" }, { head := "Required" },
        { head := "Sample" }]
      rows := model.preview.map fieldRow }
  (table.render screen).map linesText

/-- The distance of two tab stops in code. -/
def codeTabDistance : Nat := 4

/-- A line of code with its tabs made blanks, from a character on. -/
def codeLine (position : Nat) : List Char → List Char
  | [] => []
  | c :: rest =>
    if c = '\t' then
      let blanks := codeTabDistance - position % codeTabDistance
      List.replicate blanks ' ' ++ codeLine (position + blanks) rest
    else c :: codeLine (position + 1) rest

/-- **Code**, its line ends folded; one that ends in a line break shows an empty line behind it. -/
def code (text : String) : String :=
  linesText ((lines (foldLineEnds text.toList)).map fun line =>
    (codeLine 0 line).filter fun c => !Markup.isSilent c)

end Console

end SampleSchema
