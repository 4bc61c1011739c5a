import SampleSchema.Json.Value
import SampleSchema.Number.Spelling
import SampleSchema.Text.Quoted

/-!
# Writing JSON values

One printer, three layouts. A SAMPLE text is for people and terminals: blanks after separators,
ASCII only. A RECORD is for other programs: no blanks, characters as they are. A FILE is a record
on indented lines. A value can also be SHOWN, as messages and tables show it; that text is no JSON.
-/

namespace SampleSchema

/-- The decisions of one layout. -/
structure JsonLayout where
  spelling : Spelling
  comma : String
  colon : String
  /-- Are characters outside of ASCII escaped? -/
  asciiOnly : Bool

namespace JsonLayout

/-- The text of a sample. -/
def sample : JsonLayout := ⟨.document, ", ", ": ", true⟩

/-- The text of a record. -/
def compact : JsonLayout := ⟨.saved, ",", ":", false⟩

/-- The two UTF-16 units of a character above U+FFFF, the one unit of any other. -/
def units16 (c : Char) : List Nat :=
  if c.toNat < 0x10000 then [c.toNat]
  else [0xD800 + (c.toNat - 0x10000) / 0x400, 0xDC00 + (c.toNat - 0x10000) % 0x400]

/-- A character as `\uXXXX`, or as two of them. -/
def unicodeEscape (c : Char) : List Char :=
  (units16 c).flatMap fun u => '\\' :: 'u' :: hexText 4 u

/-- A character inside a string. -/
def escape (layout : JsonLayout) (c : Char) : List Char :=
  if c = '"' then ['\\', '"']
  else if c = '\\' then ['\\', '\\']
  else if c = '\n' then ['\\', 'n']
  else if c = '\r' then ['\\', 'r']
  else if c = '\t' then ['\\', 't']
  else if c = '\x08' then ['\\', 'b']
  else if c = '\x0c' then ['\\', 'f']
  else if c.toNat < 0x20 then unicodeEscape c
  else if layout.asciiOnly ∧ 0x7F ≤ c.toNat then unicodeEscape c
  else [c]

/-- A string, with its quotes. -/
def string (layout : JsonLayout) (s : String) : String :=
  String.ofList ('"' :: s.toList.flatMap layout.escape ++ ['"'])

mutual

/-- The text of a value. -/
def text (layout : JsonLayout) : Json → String
  | .null => "null"
  | .bool b => if b then "true" else "false"
  | .int z => toString z
  | .double x => layout.spelling.text x
  | .str s => layout.string s
  | .arr items => "[" ++ layout.comma.intercalate (texts layout items) ++ "]"
  | .obj members => "\x7b" ++ layout.comma.intercalate (memberTexts layout members) ++ "\x7d"

/-- The texts of the items of an array. -/
def texts (layout : JsonLayout) : List Json → List String
  | [] => []
  | v :: rest => text layout v :: texts layout rest

/-- The texts of the members of an object. -/
def memberTexts (layout : JsonLayout) : List (String × Json) → List String
  | [] => []
  | (k, v) :: rest => (layout.string k ++ layout.colon ++ text layout v) :: memberTexts layout rest

end

/-- Lines between two brackets, one deeper than the brackets; no lines leave an empty pair. -/
def block (depth : Nat) (opening closing : String) (lines : List String) : String :=
  let indent (n : Nat) := String.ofList (List.replicate (2 * n) ' ')
  if lines.isEmpty then opening ++ closing
  else
    opening ++ "\n" ++ ",\n".intercalate (lines.map (indent (depth + 1) ++ ·)) ++ "\n" ++
      indent depth ++ closing

mutual

/-- The text of a value on indented lines, its brackets `depth` levels deep. -/
def indented (layout : JsonLayout) (depth : Nat) : Json → String
  | .arr items => block depth "[" "]" (indentedItems layout (depth + 1) items)
  | .obj members => block depth "\x7b" "\x7d" (indentedMembers layout (depth + 1) members)
  | v => text layout v

/-- The texts of the items of an array on indented lines. -/
def indentedItems (layout : JsonLayout) (depth : Nat) : List Json → List String
  | [] => []
  | v :: rest => indented layout depth v :: indentedItems layout depth rest

/-- The texts of the members of an object on indented lines. -/
def indentedMembers (layout : JsonLayout) (depth : Nat) : List (String × Json) → List String
  | [] => []
  | (k, v) :: rest =>
    (layout.string k ++ ": " ++ indented layout depth v) :: indentedMembers layout depth rest

end

end JsonLayout

namespace JsonOf

/-- The text of a sample value. -/
def sampleText (v : Json) : String := JsonLayout.sample.text v

/-- The text of a value in a record. -/
def recordText (v : Json) : String := JsonLayout.compact.text v

/-- The text of a file that holds the value. -/
def fileText (v : Json) : String := JsonLayout.compact.indented 0 v

mutual

/-- A value inside a shown value: texts are quoted. -/
def shownInside : Json → String
  | .null => "None"
  | .bool b => if b then "True" else "False"
  | .int z => toString z
  | .double x => Spelling.display.text x
  | .str s => quoted s
  | .arr items => "[" ++ ", ".intercalate (shownItems items) ++ "]"
  | .obj members => "\x7b" ++ ", ".intercalate (shownMembers members) ++ "\x7d"

/-- The items of a shown array. -/
def shownItems : List Json → List String
  | [] => []
  | v :: rest => shownInside v :: shownItems rest

/-- The members of a shown object. -/
def shownMembers : List (String × Json) → List String
  | [] => []
  | (k, v) :: rest => (quoted k ++ ": " ++ shownInside v) :: shownMembers rest

end

/-- A value as messages and tables show it: a text alone stands for itself. -/
def shown : Json → String
  | .str s => s
  | v => shownInside v

end JsonOf

end SampleSchema
