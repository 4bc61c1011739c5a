import SampleSchema.Json.Value
import SampleSchema.Number.Numeral
import SampleSchema.Text.Blank

/-!
# Reading JSON texts

The reader takes the first value off a text and hands back what remains, so each function here is a
function of the remaining characters alone. A fault is met where so and so many characters are left
(`Halt.malformed`); its position in the text follows from that count at the end, when the whole
text is known (`Position.ofLeft`).

Beyond the standard the words `NaN`, `Infinity` and `-Infinity` are doubles. A number is cut off
where its grammar ends; what follows is judged by whoever reads on. Of two members with one key the
later value counts, in the place of the earlier. A `\u` escape that names half of a surrogate pair
without the other half stands for that half; only `Json.read`, which reads a value of texts of
characters, refuses it.
-/

namespace SampleSchema

/-! ## 1. Faults -/

/-- What a text lacks, or has too much of, where a fault is met. -/
inductive Flaw where
  | byteOrderMark
  | noValue
  | noName
  | noColon
  | noComma
  | moreData
  | unterminated
  | controlCharacter
  | badEscape
  | badUnicodeEscape
  deriving DecidableEq, Repr

/-- The flaw, in words. -/
def Flaw.message : Flaw → String
  | .byteOrderMark => "Unexpected UTF-8 BOM (decode using utf-8-sig)"
  | .noValue => "Expecting value"
  | .noName => "Expecting property name enclosed in double quotes"
  | .noColon => "Expecting ':' delimiter"
  | .noComma => "Expecting ',' delimiter"
  | .moreData => "Extra data"
  | .unterminated => "Unterminated string starting at"
  | .controlCharacter => "Invalid control character at"
  | .badEscape => "Invalid \\escape"
  | .badUnicodeEscape => "Invalid \\uXXXX escape"

/-- A place in a text: the number of characters before it, and the line and column, from one. -/
structure Position where
  offset : Nat
  line : Nat
  column : Nat
  deriving DecidableEq, Repr

/-- The place at which `left` characters of a text are left. -/
def Position.ofLeft (text : List Char) (left : Nat) : Position :=
  let before := text.take (text.length - left)
  { offset := before.length
    line := before.count '\n' + 1
    column := (before.reverse.takeWhile (· ≠ '\n')).length + 1 }

/-- Why no value was read. -/
inductive ReadFault where
  | malformed (flaw : Flaw) (position : Position)
  | tooManyDigits (count : Nat)
  /-- A text of the value holds half of a surrogate pair. -/
  | halfPair
  deriving DecidableEq, Repr

/-- The refusal of an integer that is written with too many digits. -/
def tooManyDigitsMessage (count : Nat) : String :=
  s!"Exceeds the limit ({Numeral.maxDigits} digits) for integer string conversion: value has " ++
    s!"{count} digits; use sys.set_int_max_str_digits() to increase the limit"

/-- The text of a fault. -/
def ReadFault.message : ReadFault → String
  | .malformed flaw p =>
    s!"{flaw.message}: line {p.line} column {p.column} (char {p.offset})"
  | .tooManyDigits count => tooManyDigitsMessage count
  | .halfPair => "surrogates not allowed"

namespace Reader

/-- A fault while reading, placed by how many characters are left. -/
inductive Halt where
  | malformed (flaw : Flaw) (left : Nat)
  | tooManyDigits (count : Nat)

/-- A fault placed in the text it was met in. -/
def Halt.placed (text : List Char) : Halt → ReadFault
  | .malformed flaw left => .malformed flaw (.ofLeft text left)
  | .tooManyDigits count => .tooManyDigits count

/-- What was read, and what remains of the text. -/
abbrev Outcome (α : Type) := Except Halt (α × List Char)

/-- The text from its first character on that is no blank. -/
def skipBlanks (cs : List Char) : List Char := cs.dropWhile isJsonBlank

/-! ## 2. Strings -/

/-- Where the reader of a string stands. -/
inductive Lexing where
  /-- Between characters; after a `\u` escape, with the text behind its `u`. -/
  | plain (escaped : Option (List Char))
  /-- Behind a backslash. -/
  | escape
  /-- In a `\u` escape with the given text behind its `u`: `due` digits to come. -/
  | unicode (escaped : List Char) (due value : Nat)

/-- What is read so far (in reverse), when no second half follows a waiting first half. -/
def settle (high : Option Nat) (read : RawText) : RawText :=
  match high with
  | some h => .ofUnit h :: read
  | none => read

/-- What is read so far (in reverse), after one more UTF-16 unit; `high` is a first half of a
    surrogate pair that waits for its second half. -/
def pushUnit (high : Option Nat) (unit : Nat) (read : RawText) :
    Option Nat × RawText :=
  if 0xD800 ≤ unit ∧ unit ≤ 0xDBFF then (some unit, settle high read)
  else
    match high with
    | some h =>
      if 0xDC00 ≤ unit ∧ unit ≤ 0xDFFF then
        (none, .char (Char.ofNat (0x10000 + (h - 0xD800) * 0x400 + (unit - 0xDC00))) :: read)
      else (none, .ofUnit unit :: .ofUnit h :: read)
    | none => (none, .ofUnit unit :: read)

/-- The character that a short escape stands for. -/
def shortEscape? : Char → Option Char
  | '"' => some '"'
  | '\\' => some '\\'
  | '/' => some '/'
  | 'b' => some '\x08'
  | 'f' => some '\x0c'
  | 'n' => some '\n'
  | 'r' => some '\r'
  | 't' => some '\t'
  | _ => none

/-- A fault at the character before a text. -/
def haltBefore (flaw : Flaw) (text : List Char) : Halt := .malformed flaw (text.length + 1)

/-- The rest of a string with the text `opened` behind its opening quote, what is read so far in
    reverse. A `\u` escape needs four digits and a character behind them. -/
def stringRest (opened : List Char) (lexing : Lexing) (high : Option Nat)
    (read : RawText) : List Char → Outcome RawText
  | [] =>
    match lexing with
    | .plain none => .error (haltBefore .unterminated opened)
    | .escape => .error (haltBefore .unterminated opened)
    | .plain (some escaped) => .error (haltBefore .badUnicodeEscape escaped)
    | .unicode escaped _ _ => .error (haltBefore .badUnicodeEscape escaped)
  | c :: rest =>
    match lexing with
    | .plain _ =>
      if c = '"' then .ok ((settle high read).reverse, rest)
      else if c = '\\' then stringRest opened .escape high read rest
      else if c.toNat < 0x20 then .error (haltBefore .controlCharacter rest)
      else stringRest opened (.plain none) none (.char c :: settle high read) rest
    | .escape =>
      if c = 'u' then stringRest opened (.unicode rest 4 0) high read rest
      else match shortEscape? c with
        | some e => stringRest opened (.plain none) none (.char e :: settle high read) rest
        | none => .error (haltBefore .badEscape (c :: rest))
    | .unicode escaped due value =>
      match hexDigit? c with
      | none => .error (haltBefore .badUnicodeEscape escaped)
      | some d =>
        if due ≤ 1 then
          let (high, read) := pushUnit high (value * 16 + d) read
          stringRest opened (.plain (some escaped)) high read rest
        else stringRest opened (.unicode escaped (due - 1) (value * 16 + d)) high read rest

/-- A string, after its opening quote. -/
def string (cs : List Char) : Outcome RawText := stringRest cs (.plain none) none [] cs

/-! ## 3. Numbers -/

/-- The digits of the integer part: a lone zero, or digits that do not begin with one. -/
def integerPart : List Char → List Char × List Char
  | '0' :: rest => (['0'], rest)
  | cs => (cs.takeWhile isAsciiDigit, cs.dropWhile isAsciiDigit)

/-- The digits behind a point; a point without one is no fraction. -/
def fractionPart (cs : List Char) : Option (List Char × List Char) :=
  match cs with
  | '.' :: rest =>
    let digits := rest.takeWhile isAsciiDigit
    if digits.isEmpty then none else some (digits, rest.dropWhile isAsciiDigit)
  | _ => none

/-- An exponent; an `e` without digits is none. -/
def exponentPart (cs : List Char) : Option (Int × List Char) :=
  match cs with
  | c :: rest => if c = 'e' ∨ c = 'E' then Numeral.exponent? rest else none
  | [] => none

/-- A number. -/
def number (cs : List Char) : Outcome RawJson :=
  let (negative, body) := match cs with
    | '-' :: r => (true, r)
    | r => (false, r)
  let (whole, rest) := integerPart body
  if whole.isEmpty then .error (.malformed .noValue cs.length)
  else
    let (fraction, isFraction, rest) := match fractionPart rest with
      | some (digits, r) => (digits, true, r)
      | none => ([], false, rest)
    match exponentPart rest with
    | some (e, r) =>
      .ok (.double (Numeral.toDouble negative (Numeral.value (whole ++ fraction))
        (e - fraction.length)), r)
    | none =>
      if isFraction then
        .ok (.double (Numeral.toDouble negative (Numeral.value (whole ++ fraction))
          (-(fraction.length : Int))), rest)
      else if Numeral.maxDigits < whole.length then .error (.tooManyDigits whole.length)
      else .ok (.int (Numeral.signed negative (Numeral.value whole)), rest)

/-! ## 4. Values -/

/-- The values that are words. -/
def words : List (List Char × RawJson) :=
  [("null".toList, .null), ("true".toList, .bool true), ("false".toList, .bool false),
    ("NaN".toList, .double .nan), ("Infinity".toList, .double (.infinite false)),
    ("-Infinity".toList, .double (.infinite true))]

/-- A value without parts, other than a string: a word or a number. -/
def atom (cs : List Char) : Outcome RawJson :=
  match words.find? (·.1.isPrefixOf cs) with
  | some (word, v) => .ok (v, cs.drop word.length)
  | none => number cs

mutual

/-- A value at the start of the text. The fuel bounds the steps: an opening bracket costs two, one
    for the value and one for its first part, and every other step takes a character off the text as
    well. So twice the length of the text and one more is enough. -/
def value (fuel : Nat) (cs : List Char) : Outcome RawJson :=
  match fuel with
  | 0 => .error (.malformed .noValue cs.length)
  | fuel + 1 =>
    match cs with
    | [] => .error (.malformed .noValue 0)
    | c :: rest =>
      if c = '"' then
        match string rest with
        | .ok (s, r) => .ok (.str s, r)
        | .error h => .error h
      else if c = '[' then
        match skipBlanks rest with
        | ']' :: r => .ok (.arr [], r)
        | r => elements fuel [] r
      else if c = '{' then
        match skipBlanks rest with
        | '}' :: r => .ok (.obj [], r)
        | r => objectRest fuel [] r
      else atom (c :: rest)

/-- The elements of an array from the first or next one on, those read so far in reverse. -/
def elements (fuel : Nat) (read : List RawJson) (cs : List Char) : Outcome RawJson :=
  match fuel with
  | 0 => .error (.malformed .noValue cs.length)
  | fuel + 1 =>
    match value fuel cs with
    | .error h => .error h
    | .ok (v, rest) =>
      match skipBlanks rest with
      | ']' :: r => .ok (.arr (v :: read).reverse, r)
      | ',' :: r => elements fuel (v :: read) (skipBlanks r)
      | r => .error (.malformed .noComma r.length)

/-- The members of an object from the first or next one on, given those read so far. -/
def objectRest (fuel : Nat) (read : List (RawText × RawJson)) (cs : List Char) : Outcome RawJson :=
  match fuel with
  | 0 => .error (.malformed .noValue cs.length)
  | fuel + 1 =>
    match cs with
    | '"' :: rest =>
      match string rest with
      | .error h => .error h
      | .ok (key, rest) =>
        match skipBlanks rest with
        | ':' :: rest =>
          match value fuel (skipBlanks rest) with
          | .error h => .error h
          | .ok (v, rest) =>
            let read := Entries.put read key v
            match skipBlanks rest with
            | '}' :: r => .ok (.obj read, r)
            | ',' :: r => objectRest fuel read (skipBlanks r)
            | r => .error (.malformed .noComma r.length)
        | r => .error (.malformed .noColon r.length)
    | _ => .error (.malformed .noName cs.length)

end

/-- A text that is one value, with blanks around it. -/
def document (cs : List Char) : Except Halt RawJson :=
  match cs with
  | c :: _ =>
    if c = Char.ofNat 0xFEFF then .error (.malformed .byteOrderMark cs.length)
    else whole cs
  | [] => whole cs
where
  /-- The value of the text, and nothing behind it. -/
  whole (cs : List Char) : Except Halt RawJson :=
    match value (2 * cs.length + 1) (skipBlanks cs) with
    | .error h => .error h
    | .ok (v, rest) =>
      match skipBlanks rest with
      | [] => .ok v
      | r => .error (.malformed .moreData r.length)

end Reader

/-- **The value that a JSON text denotes**, or the first fault in the text. -/
def RawJson.read (cs : List Char) : Except ReadFault RawJson :=
  match Reader.document cs with
  | .ok v => .ok v
  | .error h => .error (h.placed cs)

/-- **The value of texts of characters that a JSON text denotes.** -/
def Json.read (cs : List Char) : Except ReadFault Json :=
  match RawJson.read cs with
  | .error fault => .error fault
  | .ok v =>
    match v.json? with
    | some v => .ok v
    | none => .error .halfPair

end SampleSchema
