import SampleSchema.Text.Printable

/-!
# Quoted texts in messages

A message shows a name or a path between quotes: between `'`, unless the text holds a `'` and no
`"`. The quote and the backslash are escaped, and so is every character that is not printed as it
is, by its number in two, four or eight hexadecimal digits.
-/

namespace SampleSchema

/-- A number in lower-case hexadecimal, with at least `width` digits. -/
def hexText (width n : Nat) : List Char :=
  let digits := Nat.toDigits 16 n
  List.replicate (width - digits.length) '0' ++ digits

namespace Quoted

/-- The quote that a text is put between. -/
def mark (cs : List Char) : Char := if cs.contains '\'' && !cs.contains '"' then '"' else '\''

/-- One character between quotes. -/
def escape (quote c : Char) : List Char :=
  if c = quote ∨ c = '\\' then ['\\', c]
  else if c = '\n' then ['\\', 'n']
  else if c = '\r' then ['\\', 'r']
  else if c = '\t' then ['\\', 't']
  else if isPrintable c then [c]
  else if c.toNat < 0x100 then '\\' :: 'x' :: hexText 2 c.toNat
  else if c.toNat < 0x10000 then '\\' :: 'u' :: hexText 4 c.toNat
  else '\\' :: 'U' :: hexText 8 c.toNat

end Quoted

/-- **A text as a message shows it**, quotes included. -/
def quoted (s : String) : String :=
  let cs := s.toList
  let quote := Quoted.mark cs
  String.ofList (quote :: cs.flatMap (Quoted.escape quote) ++ [quote])

end SampleSchema
