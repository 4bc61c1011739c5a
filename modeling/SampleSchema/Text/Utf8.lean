import SampleSchema.Text.CodePoint
import SampleSchema.Text.Quoted

/-!
# UTF-8

A file holds bytes, and a text in it is encoded as UTF-8. A decoding fault names the longest start
of a well-formed sequence that the bytes allow: from the byte where the sequence begins up to, and
without, the first byte that rules it out. An encoding fault names the first run of halves of
surrogate pairs, which have no bytes.
-/

namespace SampleSchema

/-- Why bytes are no UTF-8. -/
inductive DecodingFlaw where
  | invalidStart
  | invalidContinuation
  | endOfData
  deriving DecidableEq, Repr

/-- A fault in bytes: `length` bytes from `position` on begin a sequence that does not go on. -/
structure DecodingFault where
  flaw : DecodingFlaw
  position : Nat
  length : Nat
  /-- The byte at the position. -/
  byte : Nat
  deriving DecidableEq, Repr

namespace DecodingFault

/-- The reason, in words. -/
def reason (f : DecodingFault) : String :=
  match f.flaw with
  | .invalidStart => "invalid start byte"
  | .invalidContinuation => "invalid continuation byte"
  | .endOfData => "unexpected end of data"

/-- The text of a fault: a single byte is shown, several are given by their positions. -/
def message (f : DecodingFault) : String :=
  if f.length = 1 then
    s!"'utf-8' codec can't decode byte 0x{String.ofList (hexText 2 f.byte)} in position " ++
      s!"{f.position}: {f.reason}"
  else
    s!"'utf-8' codec can't decode bytes in position {f.position}-{f.position + f.length - 1}: " ++
      f.reason

end DecodingFault

/-- A fault in a text: `length` halves of surrogate pairs, from `position` on. -/
structure EncodingFault where
  position : Nat
  length : Nat
  /-- The half at the position. -/
  offset : Fin 0x800
  deriving DecidableEq, Repr

/-- The text of a fault: a single half is shown, several are given by their positions. -/
def EncodingFault.message (f : EncodingFault) : String :=
  if f.length = 1 then
    s!"'utf-8' codec can't encode character '\\u{String.ofList (hexText 4 (0xD800 + f.offset))}' " ++
      s!"in position {f.position}: surrogates not allowed"
  else
    s!"'utf-8' codec can't encode characters in position {f.position}-" ++
      s!"{f.position + f.length - 1}: surrogates not allowed"

namespace Utf8

/-- The bytes of a text. -/
def encode (cs : List Char) : List UInt8 := cs.flatMap String.utf8EncodeChar

/-- The bytes of code points from a position on, or the first fault in them. -/
def encodeFrom (position : Nat) : RawText → Except EncodingFault (List UInt8)
  | [] => .ok []
  | .half offset :: rest => .error ⟨position, 1 + (rest.takeWhile (·.isHalf)).length, offset⟩
  | .char c :: rest =>
    match encodeFrom (position + 1) rest with
    | .error fault => .error fault
    | .ok bytes => .ok (String.utf8EncodeChar c ++ bytes)

/-- **The bytes of a text as it was read**, or the first fault in it. -/
def encodeRaw (text : RawText) : Except EncodingFault (List UInt8) := encodeFrom 0 text

/-- Does the byte lie in the range? -/
def within (low high : Nat) (b : UInt8) : Bool := low ≤ b.toNat && b.toNat ≤ high

/-- How many bytes follow a first byte, and the range of the first of them; the later ones lie
    between 0x80 and 0xBF. None if no character of several bytes begins with it. -/
def following? (first : UInt8) : Option (Nat × Nat × Nat) :=
  if within 0xC2 0xDF first then some (1, 0x80, 0xBF)
  else if first == 0xE0 then some (2, 0xA0, 0xBF)
  else if first == 0xED then some (2, 0x80, 0x9F)
  else if within 0xE1 0xEF first then some (2, 0x80, 0xBF)
  else if first == 0xF0 then some (3, 0x90, 0xBF)
  else if first == 0xF4 then some (3, 0x80, 0x8F)
  else if within 0xF1 0xF3 first then some (3, 0x80, 0xBF)
  else none

/-- The bits that a first byte adds, given how many bytes follow it. -/
def leadingBits (count : Nat) (first : UInt8) : Nat := first.toNat % Nat.pow 2 (6 - count)

/-- What the decoder is in the middle of: a character that began at `position` with `first`, of
    which `taken` bytes are read and `due` are still to come, the next one between `low` and
    `high`; `code` holds the bits read so far. -/
structure Pending where
  position : Nat
  first : UInt8
  taken : Nat
  due : Nat
  low : Nat
  high : Nat
  code : Nat

/-- The fault that ends a character half read. -/
def Pending.fault (p : Pending) (flaw : DecodingFlaw) : DecodingFault :=
  ⟨flaw, p.position, p.taken, p.first.toNat⟩

/-- Decode from a position on, the text read so far in reverse. -/
def decodeFrom (position : Nat) (state : Option Pending) (read : List Char) :
    List UInt8 → Except DecodingFault (List Char)
  | [] =>
    match state with
    | none => .ok read.reverse
    | some p => .error (p.fault .endOfData)
  | b :: rest =>
    match state with
    | none =>
      if b.toNat < 0x80 then
        decodeFrom (position + 1) none (Char.ofNat b.toNat :: read) rest
      else
        match following? b with
        | none => .error ⟨.invalidStart, position, 1, b.toNat⟩
        | some (count, low, high) =>
          decodeFrom (position + 1) (some ⟨position, b, 1, count, low, high, leadingBits count b⟩)
            read rest
    | some p =>
      if within p.low p.high b then
        let code := p.code * 64 + b.toNat % 64
        if p.due ≤ 1 then decodeFrom (position + 1) none (Char.ofNat code :: read) rest
        else
          decodeFrom (position + 1)
            (some { p with taken := p.taken + 1, due := p.due - 1, low := 0x80, high := 0xBF,
                           code := code })
            read rest
      else .error (p.fault .invalidContinuation)

/-- **The text that bytes encode**, or the first fault in them. -/
def decode (bytes : List UInt8) : Except DecodingFault (List Char) := decodeFrom 0 none [] bytes

end Utf8

end SampleSchema
