/-!
# Binary64 numbers, exactly

A number of the binary64 format, read as what it DENOTES and not as a machine word: a sign and a
magnitude `mantissa * 2 ^ scale`, counted in the smallest positive number of the format,
`2 ^ (-1074)`. Every operation below is exact arithmetic on natural numbers, so statements about
doubles need no axioms about hardware:

* a magnitude has ONE form (`Magnitude.normal`), so equal values are equal terms;
* a quotient of naturals is rounded to the nearest magnitude, a tie going to the even mantissa
  (`Magnitude.ofQuotient?`); past the greatest magnitude there is none, and the double is infinite;
* the order compares the exact values, and no comparison with a NaN holds.
-/

namespace SampleSchema

/-! ## 1. Magnitudes -/

/-- A finite magnitude: `mantissa * 2 ^ scale` units of `2 ^ (-1074)`, in the one form the format
    stores. Below scale 0 there is nothing finer; above it the mantissa has all its 53 bits. -/
structure Magnitude where
  mantissa : Nat
  scale : Nat
  mantissa_lt : mantissa < Nat.pow 2 53
  scale_le : scale ≤ 2045
  normal : scale = 0 ∨ Nat.pow 2 52 ≤ mantissa
  deriving DecidableEq, Repr

namespace Magnitude

/-- How many units of `2 ^ (-1074)` make up one. -/
def unitsPerOne : Nat := Nat.pow 2 1074

/-- The value, in units of `2 ^ (-1074)`. -/
def units (m : Magnitude) : Nat := m.mantissa * Nat.pow 2 m.scale

/-- The magnitude of the given mantissa and scale, if they are in the stored form. -/
def make? (mantissa scale : Nat) : Option Magnitude :=
  if h : mantissa < Nat.pow 2 53 ∧ scale ≤ 2045 ∧ (scale = 0 ∨ Nat.pow 2 52 ≤ mantissa) then
    some ⟨mantissa, scale, h.1, h.2.1, h.2.2⟩
  else none

/-- Zero. -/
def zero : Magnitude := ⟨0, 0, by decide, by decide, Or.inl rfl⟩

instance : Inhabited Magnitude := ⟨zero⟩

end Magnitude

/-- The quotient `num / den`, rounded to the nearest natural number, a tie to the even one. -/
def roundEven (num den : Nat) : Nat :=
  let floor := num / den
  let rest := num % den
  if 2 * rest < den then floor
  else if den < 2 * rest then floor + 1
  else floor + floor % 2

/-- The scale at which the quotient `num / den` (in units) has a mantissa of 53 bits; scale 0 when
    it has fewer. -/
def scaleOf (num den : Nat) : Nat := (num / den).log2 - 52

/-- **The magnitude nearest to `num / den`**, a tie going to the even mantissa; none past the
    greatest magnitude. A mantissa that rounds up to `2 ^ 53` moves to the next scale. -/
def Magnitude.ofQuotient? (num den : Nat) : Option Magnitude :=
  let num := num * unitsPerOne
  let scale := scaleOf num den
  let mantissa := roundEven num (den * Nat.pow 2 scale)
  if mantissa = Nat.pow 2 53 then make? (Nat.pow 2 52) (scale + 1) else make? mantissa scale

/-! ## 2. Doubles -/

/-- A binary64 number. -/
inductive Double where
  | nan
  | infinite (negative : Bool)
  | finite (negative : Bool) (magnitude : Magnitude)
  deriving DecidableEq, Repr

namespace Double

/-- The double nearest to `num / den`, with the given sign. -/
def ofQuotient (negative : Bool) (num den : Nat) : Double :=
  (Magnitude.ofQuotient? num den).elim (.infinite negative) (.finite negative)

/-- The double nearest to an integer. -/
def ofInt (z : Int) : Double := ofQuotient (z < 0) z.natAbs 1

/-- Positive zero. -/
def zero : Double := .finite false .zero

/-- One. -/
def one : Double := ofQuotient false 1 1

instance : Inhabited Double := ⟨zero⟩

/-- The exact value of a finite double, in units of `2 ^ (-1074)`. -/
def signedUnits (negative : Bool) (m : Magnitude) : Int :=
  if negative then -(m.units : Int) else m.units

/-- The order of the values; the two zeros are equal, and a NaN is below nothing. -/
def lt : Double → Double → Bool
  | .nan, _ => false
  | _, .nan => false
  | .infinite s, .infinite t => s && !t
  | .infinite s, .finite _ _ => s
  | .finite _ _, .infinite t => !t
  | .finite s a, .finite t b => signedUnits s a < signedUnits t b

/-- At most, by value; false when either side is a NaN. -/
def le : Double → Double → Bool
  | .nan, _ => false
  | _, .nan => false
  | .infinite s, .infinite t => s || !t
  | .infinite s, .finite _ _ => s
  | .finite _ _, .infinite t => !t
  | .finite s a, .finite t b => signedUnits s a ≤ signedUnits t b

/-- The integer a double is, if it is finite and has no fraction. -/
def integer? : Double → Option Int
  | .finite negative m =>
    if m.units % Magnitude.unitsPerOne = 0 then
      let n : Int := (m.units / Magnitude.unitsPerOne : Nat)
      some (if negative then -n else n)
    else none
  | _ => none

end Double

end SampleSchema
