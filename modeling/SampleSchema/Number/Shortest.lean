import SampleSchema.Number.Double

/-!
# The shortest decimal that reads back

Among all decimals that round to a given magnitude, the one with the fewest digits; among those
with the fewest, the nearest to the exact value, a tie going to the even last digit.

A decimal grid of `n` digits holds a number of the rounding interval exactly when one of the
value's two neighbours on that grid lies in it. So the search walks `n = 1, 2, …, 17` and looks at
two candidates each time (`Magnitude.onGrid?`); the first hit wins. Should no grid have a hit, the
exact decimal expansion of the value is taken: whatever the search does, the result reads back.

All values are counted in quarters of the unit `2 ^ (-1074)`, the finest step in which the ends of
a rounding interval are whole.
-/

namespace SampleSchema

/-- The decimal `0.d₁d₂…dₙ * 10 ^ point`, its digits given as characters. -/
structure Decimal where
  digits : List Char
  point : Int
  deriving DecidableEq, Repr

namespace Decimal

/-- The decimal `coefficient * 10 ^ exponent`, without the zeros its coefficient ends in. -/
def ofScientific (coefficient : Nat) (exponent : Int) : Decimal :=
  let written := Nat.toDigits 10 coefficient
  { digits := (written.reverse.dropWhile (· == '0')).reverse
    point := exponent + written.length }

/-- The exponent `e` of the form `d.d…d * 10 ^ e`. -/
def scientificExponent (d : Decimal) : Int := d.point - 1

end Decimal

namespace Magnitude

/-! ## 1. The rounding interval -/

/-- Quarter units that make up one. -/
def quartersPerOne : Nat := 4 * unitsPerOne

/-- The value in quarter units. -/
def quarters (m : Magnitude) : Nat := 4 * m.units

/-- The upper end of the numbers that round to `m`, in quarter units: half a step up. -/
def upperEnd (m : Magnitude) : Nat := m.quarters + 2 * Nat.pow 2 m.scale

/-- The lower end: half a step down, where the step is half as wide below a power of two. -/
def lowerEnd (m : Magnitude) : Nat :=
  m.quarters - (if m.mantissa = Nat.pow 2 52 ∧ m.scale ≠ 0 then 1 else 2) * Nat.pow 2 m.scale

/-- Does `num / den` (in ones) round to `m`? The ends belong to an even mantissa. -/
def admits (m : Magnitude) (num den : Nat) : Bool :=
  let value := num * quartersPerOne
  if m.mantissa % 2 = 0 then m.lowerEnd * den ≤ value && value ≤ m.upperEnd * den
  else m.lowerEnd * den < value && value < m.upperEnd * den

/-! ## 2. Decimal grids -/

/-- `coefficient * 10 ^ exponent` as a quotient of naturals. -/
def decimalQuotient (coefficient : Nat) (exponent : Int) : Nat × Nat :=
  if 0 ≤ exponent then (coefficient * Nat.pow 10 exponent.toNat, 1)
  else (coefficient, Nat.pow 10 (-exponent).toNat)

/-- The value divided by `10 ^ exponent`, as a quotient of naturals. -/
def scaledQuotient (m : Magnitude) (exponent : Int) : Nat × Nat :=
  if 0 ≤ exponent then (m.quarters, quartersPerOne * Nat.pow 10 exponent.toNat)
  else (m.quarters * Nat.pow 10 (-exponent).toNat, quartersPerOne)

/-- Where the decimal point of a positive value stands: `10 ^ (point - 1) ≤ value < 10 ^ point`. -/
def decimalPoint (m : Magnitude) : Int :=
  let whole := m.quarters / quartersPerOne
  if whole ≠ 0 then (Nat.toDigits 10 whole).length
  else
    let inverse := (quartersPerOne + m.quarters - 1) / m.quarters
    1 - ((Nat.toDigits 10 (inverse - 1)).length : Int)

/-- The neighbour of the value on the grid of step `10 ^ exponent` that rounds to it: the nearer
    one if both do, the even one of two that are equally near. -/
def onGrid? (m : Magnitude) (exponent : Int) : Option Nat :=
  let (num, den) := m.scaledQuotient exponent
  let below := num / den
  let hits (coefficient : Nat) : Bool :=
    let (p, q) := decimalQuotient coefficient exponent
    m.admits p q
  match hits below, hits (below + 1) with
  | true, true => some (roundEven num den)
  | true, false => some below
  | false, true => some (below + 1)
  | false, false => none

/-- The exact decimal expansion of the value. -/
def exactDecimal (m : Magnitude) : Decimal :=
  Decimal.ofScientific (m.units * Nat.pow 5 1074) (-1074)

/-- **The shortest decimal that rounds to `m`**, for a positive magnitude. -/
def shortest (m : Magnitude) : Decimal :=
  let point := m.decimalPoint
  let hit := (List.range 17).findSome? fun (i : Nat) =>
    let exponent := point - (i + 1 : Nat)
    (m.onGrid? exponent).map (Decimal.ofScientific · exponent)
  hit.getD m.exactDecimal

end Magnitude

end SampleSchema
