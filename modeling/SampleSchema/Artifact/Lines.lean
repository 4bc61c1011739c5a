import SampleSchema.Text.Segments

/-!
# Texts as lists of lines

Generated code is put together line by line. A line is any text; only when a name that is spliced
into it holds a line break does a line come out as several.
-/

namespace SampleSchema

/-- Lines as one text, without a line break at the end. -/
def joinLines (lines : List String) : String := "\n".intercalate lines

/-- Lines as one text, each with a line break at its end. -/
def endLines (lines : List String) : String := String.join (lines.map (· ++ "\n"))

/-- Lines between braces, behind a head. -/
def braced (head : String) (lines : List String) : List String :=
  (head ++ " \x7b") :: lines ++ ["\x7d"]

end SampleSchema
