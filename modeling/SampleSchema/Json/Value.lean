import SampleSchema.Number.Double
import SampleSchema.Entries
import SampleSchema.Text.CodePoint

/-!
# JSON values

A number without fraction and exponent is an integer of any size, every other number a double. An
object is a dictionary in the order of its text.

The strings and keys of a value are of one type. They are lists of code points in a value as it is
read (`RawJson`), and texts of characters everywhere else (`Json`); a value that is read without
halves of surrogate pairs is one of these (`JsonOf.json?`).
-/

namespace SampleSchema

/-- A JSON value whose texts are of the given type. -/
inductive JsonOf (τ : Type) where
  | null
  | bool (b : Bool)
  | int (z : Int)
  | double (x : Double)
  | str (s : τ)
  | arr (items : List (JsonOf τ))
  | obj (members : List (τ × JsonOf τ))
  deriving Repr, Inhabited

/-- A JSON value of texts of characters. -/
abbrev Json := JsonOf String

/-- A JSON value as it is read; its texts can hold halves of surrogate pairs. -/
abbrev RawJson := JsonOf RawText

namespace JsonOf

variable {τ σ : Type}

/-- The name of a value's kind in messages. -/
def kindName : JsonOf τ → String
  | .null => "NoneType"
  | .bool _ => "bool"
  | .int _ => "int"
  | .double _ => "float"
  | .str _ => "str"
  | .arr _ => "list"
  | .obj _ => "dict"

/-- Is this an object? -/
def isObject : JsonOf τ → Bool
  | .obj _ => true
  | _ => false

/-- The members of an object; a value of another kind has none. -/
def members : JsonOf τ → List (τ × JsonOf τ)
  | .obj ms => ms
  | _ => []

mutual

/-- A value with other texts. -/
def mapTexts (f : τ → σ) : JsonOf τ → JsonOf σ
  | .null => .null
  | .bool b => .bool b
  | .int z => .int z
  | .double x => .double x
  | .str s => .str (f s)
  | .arr items => .arr (mapItems f items)
  | .obj members => .obj (mapMembers f members)

/-- Items with other texts. -/
def mapItems (f : τ → σ) : List (JsonOf τ) → List (JsonOf σ)
  | [] => []
  | v :: rest => mapTexts f v :: mapItems f rest

/-- Members with other texts. -/
def mapMembers (f : τ → σ) : List (τ × JsonOf τ) → List (σ × JsonOf σ)
  | [] => []
  | (key, v) :: rest => (f key, mapTexts f v) :: mapMembers f rest

end

mutual

/-- A value with other texts, if each text has one. -/
def mapTexts? (f : τ → Option σ) : JsonOf τ → Option (JsonOf σ)
  | .null => some .null
  | .bool b => some (.bool b)
  | .int z => some (.int z)
  | .double x => some (.double x)
  | .str s => (f s).map .str
  | .arr items => (mapItems? f items).map .arr
  | .obj members => (mapMembers? f members).map .obj

/-- Items with other texts, if each text has one. -/
def mapItems? (f : τ → Option σ) : List (JsonOf τ) → Option (List (JsonOf σ))
  | [] => some []
  | v :: rest => do
    let v ← mapTexts? f v
    let rest ← mapItems? f rest
    some (v :: rest)

/-- Members with other texts, if each text has one. -/
def mapMembers? (f : τ → Option σ) : List (τ × JsonOf τ) → Option (List (σ × JsonOf σ))
  | [] => some []
  | (key, v) :: rest => do
    let key ← f key
    let v ← mapTexts? f v
    let rest ← mapMembers? f rest
    some ((key, v) :: rest)

end

/-- A value with its texts as code points. -/
def raw (v : Json) : RawJson := v.mapTexts CodePoint.ofText

/-- A value that was read, if its texts are made of characters. -/
def json? (v : RawJson) : Option Json := v.mapTexts? CodePoint.text?

/-- A value that was read, with the replacement character in the place of each half. -/
def replaced (v : RawJson) : Json := v.mapTexts CodePoint.replaced

end JsonOf

end SampleSchema
