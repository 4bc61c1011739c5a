import SampleSchema.FieldType
import SampleSchema.Json.Value
import SampleSchema.Number.Numeral
import SampleSchema.Text.DecimalDigit

/-!
# The type of one value

A text that begins like `2024-01-15` is a date, in the digits of any script; a text of exactly 24
hexadecimal digits is an object id; any other text is a string. A double without a fraction counts
as an integer. An array has the type of its first element, and an object is never looked into. So
the type of a value depends on nothing but the chain of first elements and the leaf it ends in.
-/

namespace SampleSchema

/-- Does a text begin with four, two and two digits, joined by hyphens? -/
def hasDatePrefix : List Char → Bool
  | y₁ :: y₂ :: y₃ :: y₄ :: h₁ :: m₁ :: m₂ :: h₂ :: d₁ :: d₂ :: _ =>
    [y₁, y₂, y₃, y₄, m₁, m₂, d₁, d₂].all isDecimalDigit && h₁ == '-' && h₂ == '-'
  | _ => false

/-- Is a text 24 hexadecimal digits, and no more? -/
def isObjectId (cs : List Char) : Bool :=
  cs.length == 24 && cs.all fun c => (hexDigit? c).isSome

/-- The kind of a text. -/
def ScalarKind.ofText (cs : List Char) : ScalarKind :=
  if hasDatePrefix cs then .date else if isObjectId cs then .objectId else .string

/-- The kind of a double. -/
def ScalarKind.ofDouble (x : Double) : ScalarKind :=
  if x.integer?.isSome then .int else .float

namespace FieldType

/-- **The type of a value.** -/
def ofJson : Json → FieldType
  | .null => .unknown
  | .bool _ => .scalar .boolean
  | .int _ => .scalar .int
  | .double x => .scalar (.ofDouble x)
  | .str s => .scalar (.ofText s.toList)
  | .arr [] => .array .unknown
  | .arr (v :: _) => .array (ofJson v)
  | .obj _ => .mixed

/-- The type that a value gives evidence of, where what is no JSON value gives none. -/
def ofEvidence : Option Json → FieldType
  | some v => ofJson v
  | none => .unknown

end FieldType

end SampleSchema
