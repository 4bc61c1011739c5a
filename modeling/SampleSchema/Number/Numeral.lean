import SampleSchema.Number.Double

/-!
# Reading numerals

Three readings of digit strings, from the strictest to the most lenient: the value of a run of
ASCII digits, a decimal numeral with fraction and exponent, and a numeral as a person writes one,
with a sign, words for infinity and NaN, and a point at either end.

A decimal numeral is rounded ONCE, from its exact value. An exponent far outside the format is
decided by the number of digits alone, so no power of ten is ever larger than the numeral is long.
-/

namespace SampleSchema

/-- Is this an ASCII digit? -/
def isAsciiDigit (c : Char) : Bool := '0' ≤ c && c ≤ '9'

/-- The value of an ASCII hexadecimal digit. -/
def hexDigit? (c : Char) : Option Nat :=
  if '0' ≤ c ∧ c ≤ '9' then some (c.toNat - '0'.toNat)
  else if 'a' ≤ c ∧ c ≤ 'f' then some (c.toNat - 'a'.toNat + 10)
  else if 'A' ≤ c ∧ c ≤ 'F' then some (c.toNat - 'A'.toNat + 10)
  else none

namespace Numeral

/-- The greatest number of digits an integer may be written with. -/
def maxDigits : Nat := 4300

/-- The value of a run of digits. -/
def value (digits : List Char) : Nat :=
  digits.foldl (fun n c => 10 * n + (c.toNat - '0'.toNat)) 0

/-- An integer from its sign and its digits. -/
def signed (negative : Bool) (n : Nat) : Int := if negative then -(n : Int) else n

/-- **The double nearest to `coefficient * 10 ^ exponent`.** -/
def toDouble (negative : Bool) (coefficient : Nat) (exponent : Int) : Double :=
  if coefficient = 0 then .finite negative .zero
  else
    let point : Int := (Nat.toDigits 10 coefficient).length + exponent
    if 310 < point then .infinite negative
    else if point < -330 then .finite negative .zero
    else if 0 ≤ exponent then .ofQuotient negative (coefficient * Nat.pow 10 exponent.toNat) 1
    else .ofQuotient negative coefficient (Nat.pow 10 (-exponent).toNat)

/-- An exponent after its `e`: an optional sign and at least one digit; with what follows it. -/
def exponent? (cs : List Char) : Option (Int × List Char) :=
  let (negative, body) := match cs with
    | '-' :: r => (true, r)
    | '+' :: r => (false, r)
    | r => (false, r)
  let digits := body.takeWhile isAsciiDigit
  if digits.isEmpty then none
  else some (signed negative (value digits), body.dropWhile isAsciiDigit)

/-- Lower case for ASCII letters. -/
def lowered (cs : List Char) : List Char := cs.map Char.toLower

/-- An unsigned decimal numeral that is all of the text: digits with at most one point among or
    beside them, then an optional exponent. -/
def unsigned? (negative : Bool) (cs : List Char) : Option Double :=
  let whole := cs.takeWhile isAsciiDigit
  let rest := cs.dropWhile isAsciiDigit
  let (fraction, rest) := match rest with
    | '.' :: r => (r.takeWhile isAsciiDigit, r.dropWhile isAsciiDigit)
    | r => ([], r)
  let build (e : Int) := toDouble negative (value (whole ++ fraction)) (e - fraction.length)
  if whole.isEmpty && fraction.isEmpty then none
  else match rest with
    | [] => some (build 0)
    | c :: r =>
      if c = 'e' ∨ c = 'E' then
        match exponent? r with
        | some (e, []) => some (build e)
        | _ => none
      else none

/-- **A double as a person writes one**: an optional sign, then a decimal numeral, an infinity
    (`inf`, `infinity`) or a NaN (`nan`), the words in either case. -/
def double? (cs : List Char) : Option Double :=
  let (negative, body) := match cs with
    | '-' :: r => (true, r)
    | '+' :: r => (false, r)
    | r => (false, r)
  let word := lowered body
  if word = ['i', 'n', 'f'] ∨ word = ['i', 'n', 'f', 'i', 'n', 'i', 't', 'y'] then
    some (.infinite negative)
  else if word = ['n', 'a', 'n'] then some .nan
  else unsigned? negative body

end Numeral

end SampleSchema
