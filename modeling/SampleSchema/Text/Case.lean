import SampleSchema.Text.CaseTable

/-!
# Upper and lower case of one character

The full mappings: the image of a character is a text, one character long for nearly all.
-/

namespace SampleSchema

/-- The image of a character under a table of spans and a table of sequences. -/
def caseImage (spans : List CaseSpan) (sequences : List (Nat × List Nat)) (c : Char) : List Char :=
  match sequences.lookup c.toNat with
  | some codes => codes.map Char.ofNat
  | none =>
    match spans.find? (·.holds c.toNat) with
    | some s => [Char.ofNat (c.toNat + s.shift).toNat]
    | none => [c]

/-- The upper-case form of a character. -/
def upper (c : Char) : List Char := caseImage upperSpans upperSequences c

/-- The lower-case form of a character. -/
def lower (c : Char) : List Char := caseImage lowerSpans lowerSequences c

/-- A text with its first character in upper case. -/
def upperFirst : List Char → List Char
  | [] => []
  | c :: rest => upper c ++ rest

/-- A text with its first character in lower case. -/
def lowerFirst : List Char → List Char
  | [] => []
  | c :: rest => lower c ++ rest

end SampleSchema
