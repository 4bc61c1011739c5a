import SampleSchema.Console.Fitting
import SampleSchema.Console.Markup

/-!
# Tables

A table has a title, columns with a head each, and rows of cells, all given as markup. A column is
as wide as its widest cell and a blank on both sides; a cell of several lines makes its row as high
as it is. The title stands in the middle above the table.

A table stands on a SCREEN, which has a number of columns. How it narrows a table that is wider, and
what it makes of the codes of emoji, is left open here: a screen may do anything.
-/

namespace SampleSchema

/-- A column of a table. -/
structure TableColumn where
  head : String
  /-- Are its cells broken between words, if they are too long? -/
  wraps : Bool := true

/-- A table; each row has a cell for each column. -/
structure Table where
  title : String
  columns : List TableColumn
  rows : List (List String)

/-- What texts are printed on. -/
structure Screen where
  /-- The number of its columns. -/
  columns : Nat
  /-- Does it know an emoji of this name? -/
  isEmoji : List Char → Bool
  /-- What it prints of markup with the code of an emoji in its text. -/
  withEmoji : List Char → List Char
  /-- The widths that it gives to the columns of a table that is too wide, for those they need. -/
  narrowed : Table → List Nat → List Nat

namespace Screen

/-- A screen that knows no emoji, and leaves every table as wide as it is. -/
def plain (columns : Nat) : Screen := ⟨columns, fun _ => false, id, fun _ widths => widths⟩

variable (screen : Screen)

/-- A name is made of other characters than those of markup. -/
def knows (name : List Char) : Bool :=
  name.all (fun c => c != '[' && c != '\\') && screen.isEmoji name

/-- **Does a text hold the code of an emoji?** That is its name between two colons. -/
def holdsEmoji : List Char → Bool
  | [] => false
  | c :: rest =>
    c == ':' && rest.contains ':' && screen.knows (rest.takeWhile (· ≠ ':')) || holdsEmoji rest

/-- **The text that markup prints** on a screen. -/
def render (cs : List Char) : Except MarkupFault (List Char) :=
  (Markup.render cs).map fun text => if screen.holdsEmoji text then screen.withEmoji cs else text

end Screen

namespace Table

/-- Does a line end at this character when the width of a cell is taken? -/
def isLineEnd (c : Char) : Bool :=
  [0x0A, 0x0B, 0x0C, 0x0D, 0x1C, 0x1D, 0x1E, 0x85, 0x2028, 0x2029].contains c.toNat

/-- The width of a printed text: that of its widest line. -/
def widthOf (cs : List Char) : Nat := ((segments isLineEnd cs).map columnCount).foldl max 0

/-- The lines of a cell in a column of the given width, each filled up. -/
def cellLines (column : TableColumn) (width : Nat) (cs : List Char) : List (List Char) :=
  let broken :=
    if column.wraps then brokenLines width false cs
    else (lines cs).map fun line => withoutExcess width (withoutTabs tabDistance 0 line)
  broken.map fun line => filled width (cutWithEllipsis width line)

/-- The lines of a row: the cells side by side, the lower ones filled with empty lines. -/
def rowLines (mark : Char) (cells : List (Nat × List (List Char))) : List (List Char) :=
  let height := (cells.map (·.2.length)).foldl max 1
  (List.range height).map fun i =>
    mark :: cells.flatMap fun (width, ls) =>
      ' ' :: (ls[i]?.getD (List.replicate width ' ')) ++ [' ', mark]

/-- A line between rows: its two ends, what crosses the columns, and what fills them. -/
def rule (left cross right fill : Char) (widths : List Nat) : List Char :=
  left :: [cross].intercalate (widths.map fun w => List.replicate (w + 2) fill) ++ [right]

/-- The widths that columns need: those of their widest cells. -/
def columnWidths (heads : List (List Char)) (rows : List (List (List Char))) : List Nat :=
  heads.zipIdx.map fun (head, i) =>
    (rows.map fun row => widthOf (row[i]?.getD [])).foldl max (widthOf head)

/-- The width of a table with columns of given widths: a blank on both sides of each, and a line
    before each and at the end. -/
def total (widths : List Nat) : Nat := widths.foldl (· + ·) 0 + 3 * widths.length + 1

/-- **The lines of a table** on a screen. -/
def render (screen : Screen) (t : Table) : Except MarkupFault (List (List Char)) := do
  let title ← screen.render t.title.toList
  let heads ← t.columns.mapM fun c => screen.render c.head.toList
  let rows ← t.rows.mapM fun row => row.mapM fun cell => screen.render cell.toList
  let needed := columnWidths heads rows
  let widths := if total needed ≤ screen.columns then needed else screen.narrowed t needed
  let lay (mark : Char) (cells : List (List Char)) :=
    rowLines mark ((t.columns.zip (widths.zip cells)).map fun (column, width, cell) =>
      (width, cellLines column width cell))
  pure <|
    (if title.isEmpty then []
      else (brokenLines (total widths) true title).map (centered (total widths))) ++
      [rule '┏' '┳' '┓' '━' widths] ++ lay '┃' heads ++ [rule '┡' '╇' '┩' '━' widths] ++
      rows.flatMap (lay '│') ++ [rule '└' '┴' '┘' '─' widths]

end Table

end SampleSchema
