import SampleSchema.Number.Numeral
import SampleSchema.Path
import SampleSchema.Text.Blank
import SampleSchema.Validation.Checked

/-!
# Lenient checks of plain values

A record may hold a number, a truth value or a path in more than one form: an integer also as a
double without a fraction, as a truth value or as a text. Each check here says which forms it takes
and what the value is; anything else is a fault.
-/

namespace SampleSchema

/-! ## 1. Integers -/

namespace Numeral

/-- A text without its underscores, if each of them stands alone and inside; none if there is no
    underscore to drop. -/
def withoutUnderscores? (cs : List Char) : Option (List Char) :=
  let pieces := segments (· == '_') cs
  if pieces.length ≤ 1 ∨ pieces.any (·.isEmpty) then none else some pieces.flatten

/-- Behind one or more zeros: the text from the first digit that counts on. Zeros are passed over,
    also with single underscores between them; before a point one character stays, and so does the
    last one of a text that is nothing but zeros. -/
def afterZeros? (last : Char) : List Char → Option (List Char)
  | [] => some [last]
  | c :: rest =>
    if c = '0' then afterZeros? '0' rest
    else if c = '_' then if last = '_' then none else afterZeros? '_' rest
    else if '1' ≤ c ∧ c ≤ '9' then some (c :: rest)
    else if c = '.' then some (last :: c :: rest)
    else none

/-- A text without leading zeros; none if it cannot begin an integer. -/
def withoutZeros? : List Char → Option (List Char)
  | [] => none
  | c :: rest =>
    if c = '0' then afterZeros? '0' rest
    else if ('1' ≤ c ∧ c ≤ '9') ∨ c = '-' then some (c :: rest)
    else none

/-- A text without a point that only zeros follow. -/
def withoutZeroFraction (cs : List Char) : List Char :=
  let fraction := (cs.dropWhile (· ≠ '.')).drop 1
  if fraction.all (· == '0') then cs.takeWhile (· ≠ '.') else cs

/-- The plain digits, and perhaps a minus, in the text of an integer as a person writes one. -/
def plainInteger? (cs : List Char) : Option (List Char) :=
  let body := match trimmed isWhiteSpace cs with
    | '+' :: '-' :: _ => []
    | '+' :: r => r
    | r => r
  (withoutZeros? body).map fun digits =>
    let digits := withoutZeroFraction digits
    (withoutUnderscores? digits).getD digits

/-- An integer in plain digits, of which there may be too many. -/
def plainValue (cs : List Char) : Except Cause Int :=
  let (negative, digits) := match cs with
    | '-' :: r => (true, r)
    | r => (false, r)
  let digitCount := (digits.takeWhile isAsciiDigit).length
  if maxDigits < digitCount then .error .integerTooLong
  else if digits.isEmpty ∨ digitCount < digits.length ∨ (digits.head? = some '0' ∧ 1 < digitCount)
    then .error .integerText
  else .ok (signed negative (value digits))

/-- An integer as a person writes one: blanks around it, a sign, leading zeros, a point with zeros
    behind it, single underscores between digits. -/
def integer (cs : List Char) : Except Cause Int :=
  match plainInteger? cs with
  | some digits => plainValue digits
  | none => .error .integerText

end Numeral

/-- From this magnitude on a double is too large to count as an integer. -/
def Double.integerBound : Int := Nat.pow 2 63

/-- The integer that a double is, unless it is too large, has a fraction or is not finite. -/
def Double.counted (x : Double) : Except Cause Int :=
  match x with
  | .finite _ _ =>
    match x.integer? with
    | some z => if -integerBound < z ∧ z < integerBound then .ok z else .error .integerTooLong
    | none => .error .fraction
  | _ => .error .notFinite

namespace Checked

/-- A check that has at most one fault. -/
def ofCause {α : Type} : Except Cause α → Checked α
  | .ok a => .ok a
  | .error cause => fault cause

/-- **An integer.** -/
def integer : Json → Checked Int
  | .int z => .ok z
  | .bool b => .ok (if b then 1 else 0)
  | .double x => ofCause x.counted
  | .str s => ofCause (Numeral.integer s.toList)
  | _ => fault .notAnInteger

/-- **An integer of at least a bound.** -/
def natural (least : Nat) (v : Json) : Checked { n : Nat // least ≤ n } :=
  match integer v with
  | .ok z =>
    if h : (least : Int) ≤ z then .ok ⟨z.toNat, by omega⟩ else fault (.below least)
  | .error faults => .error faults

/-! ## 2. Numbers -/

/-- The double nearest to an integer; one past the greatest double is only read, not converted. -/
def ofInteger (source : Source) (z : Int) : Checked Double :=
  match source, Double.ofInt z with
  | .value, .infinite _ => fault .notANumber
  | _, x => .ok x

/-- **A number.** -/
def number (source : Source) : Json → Checked Double
  | .double x => .ok x
  | .int z => ofInteger source z
  | .bool b => .ok (if b then .one else .zero)
  | .str s =>
    match Numeral.double? (trimmed isWhiteSpace s.toList) with
    | some x => .ok x
    | none =>
      match (Numeral.withoutUnderscores? s.toList).bind Numeral.double? with
      | some x => .ok x
      | none => fault .numberText
  | _ => fault .notANumber

/-! ## 3. Truth values, texts, paths, lists, records -/

/-- The truth value of an integer. -/
def truth (z : Int) : Checked Bool :=
  if z = 0 then .ok false else if z = 1 then .ok true else fault .booleanText

/-- The words for a truth value, in either case. -/
def truthWord? (cs : List Char) : Option Bool :=
  let word := String.ofList (Numeral.lowered cs)
  if ["0", "off", "f", "false", "n", "no"].contains word then some false
  else if ["1", "on", "t", "true", "y", "yes"].contains word then some true
  else none

/-- **A truth value.** -/
def boolean : Json → Checked Bool
  | .bool b => .ok b
  | .int z =>
    if -Double.integerBound ≤ z ∧ z < Double.integerBound then truth z else fault .notABoolean
  | .double x =>
    match x.counted with
    | .ok z => truth z
    | .error _ => fault .notABoolean
  | .str s =>
    match truthWord? s.toList with
    | some b => .ok b
    | none => fault .booleanText
  | _ => fault .notABoolean

/-- **A text.** -/
def string : Json → Checked String
  | .str s => .ok s
  | _ => fault .notAText

/-- **A path.** -/
def path : Json → Checked Path
  | .str s => .ok (.ofText s)
  | _ => fault .notAPath

/-- **A list**, each of its items checked. -/
def list {α : Type} (source : Source) (check : Json → Checked α) : Json → Checked (List α)
  | .arr vs => all (items check 0 vs)
  | _ =>
    match source with
    | .value => fault .notAList
    | .text => fault .notAnArray

/-- **A record** of the given name, its members checked. -/
def record {α : Type} (source : Source) (name : String)
    (check : List (String × Json) → Checked α) : Json → Checked α
  | .obj members => check members
  | _ =>
    match source with
    | .value => fault (.notARecord name)
    | .text => fault .notAnObject

end Checked

end SampleSchema
