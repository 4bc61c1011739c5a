import SampleSchema.Number.Shortest

/-!
# How doubles are written

The digits of a double are `Magnitude.shortest`; what differs between texts is the SPELLING around
them: from which exponent on a number is written with an exponent, how that exponent looks, and how
the values that are no numbers are spelled. One record holds these decisions, and each text that
the program writes names the record it uses.
-/

namespace SampleSchema

/-- The decisions of one spelling of doubles. -/
structure Spelling where
  /-- The least exponent (of the form `d.d…d * 10 ^ e`) that is written without an exponent. -/
  leastPositional : Int
  /-- The least exponent that is written with an exponent again. -/
  scientificFrom : Int
  /-- Does a positive exponent carry a plus sign? -/
  exponentPlus : Bool
  /-- The least number of digits of an exponent. -/
  exponentWidth : Nat
  nan : String
  infinite : Bool → String

namespace Spelling

/-- A double in a JSON text: `1e+16` and `1e-05`, and words for the values that are no numbers. -/
def document : Spelling where
  leastPositional := -4
  scientificFrom := 16
  exponentPlus := true
  exponentWidth := 2
  nan := "NaN"
  infinite negative := if negative then "-Infinity" else "Infinity"

/-- A double shown to a reader: as in a JSON text, with `nan` and `inf`. -/
def display : Spelling where
  leastPositional := -4
  scientificFrom := 16
  exponentPlus := true
  exponentWidth := 2
  nan := "nan"
  infinite negative := if negative then "-inf" else "inf"

/-- A double in a saved record: `1e16` and `1e-7`; what is no number is null. -/
def saved : Spelling where
  leastPositional := -5
  scientificFrom := 16
  exponentPlus := false
  exponentWidth := 1
  nan := "null"
  infinite _ := "null"

/-- The exponent of the scientific form, sign and padding included. -/
def exponentText (style : Spelling) (exponent : Int) : List Char :=
  let digits := Nat.toDigits 10 exponent.natAbs
  let sign := if exponent < 0 then ['-'] else if style.exponentPlus then ['+'] else []
  sign ++ List.replicate (style.exponentWidth - digits.length) '0' ++ digits

/-- A positive decimal without an exponent, always with a digit on both sides of the point. -/
def positionalText (d : Decimal) : List Char :=
  if d.point ≤ 0 then
    ['0', '.'] ++ List.replicate (-d.point).toNat '0' ++ d.digits
  else
    let point := d.point.toNat
    if d.digits.length ≤ point then
      d.digits ++ List.replicate (point - d.digits.length) '0' ++ ['.', '0']
    else d.digits.take point ++ ['.'] ++ d.digits.drop point

/-- A positive decimal with an exponent; the point is left out after a single digit. -/
def scientificText (style : Spelling) (d : Decimal) : List Char :=
  let fraction := d.digits.drop 1
  d.digits.take 1 ++ (if fraction.isEmpty then [] else '.' :: fraction) ++ ['e'] ++
    style.exponentText d.scientificExponent

/-- A positive decimal, in the form its exponent asks for. -/
def decimalText (style : Spelling) (d : Decimal) : List Char :=
  let e := d.scientificExponent
  if style.leastPositional ≤ e ∧ e < style.scientificFrom then positionalText d
  else style.scientificText d

/-- A magnitude; zero is `0.0`. -/
def magnitudeText (style : Spelling) (m : Magnitude) : List Char :=
  if m.mantissa = 0 then ['0', '.', '0'] else style.decimalText m.shortest

/-- **The text of a double.** A negative zero keeps its sign. -/
def text (style : Spelling) : Double → String
  | .nan => style.nan
  | .infinite negative => style.infinite negative
  | .finite negative m =>
    String.ofList ((if negative then ['-'] else []) ++ style.magnitudeText m)

end Spelling

end SampleSchema
