import SampleSchema.Json.Reader

/-!
# The grammar of JSON texts

What a text denotes, said without a reader: `Denotes` has one constructor for each rule of the
grammar, and a text denotes what the characters in it, put together by these rules, stand for. The
rules say nothing about where a reader stops, nor how much of a text it has looked at.

Two parts of a text are not its characters one by one. An integer stands for a value only if it is
written with no more than `Numeral.maxDigits` digits. And `\u` escapes stand for UTF-16 units, of
which two may make one character: `joinUnits` says which do. A half of a surrogate pair that stays
alone stands for itself, so what a string stands for are code points.
-/

namespace SampleSchema

/-! ## 1. Strings -/

/-- What a piece of a string stands for: a character, or a unit of UTF-16. -/
abbrev StringPiece := Char ⊕ Nat

/-- The first half of a surrogate pair. -/
def IsHighUnit (u : Nat) : Prop := 0xD800 ≤ u ∧ u ≤ 0xDBFF

/-- The second half of a surrogate pair. -/
def IsLowUnit (u : Nat) : Prop := 0xDC00 ≤ u ∧ u ≤ 0xDFFF

instance (u : Nat) : Decidable (IsHighUnit u) := by
  unfold IsHighUnit
  infer_instance

instance (u : Nat) : Decidable (IsLowUnit u) := by
  unfold IsLowUnit
  infer_instance

/-- The character of a surrogate pair. -/
def pairedUnits (high low : Nat) : Char :=
  Char.ofNat (0x10000 + (high - 0xD800) * 0x400 + (low - 0xDC00))

/-- **The code points of pieces**: two units that make a pair are one character, and any other unit
    stands for itself. -/
def joinUnits : List StringPiece → RawText
  | [] => []
  | .inl c :: rest => .char c :: joinUnits rest
  | .inr u :: .inr w :: rest =>
    if IsHighUnit u ∧ IsLowUnit w then .char (pairedUnits u w) :: joinUnits rest
    else .ofUnit u :: joinUnits (.inr w :: rest)
  | .inr u :: rest => .ofUnit u :: joinUnits rest

/-- **How the pieces of a string are written.** -/
inductive SpellsPieces : List Char → List StringPiece → Prop
  | nil : SpellsPieces [] []
  | plain {c : Char} {cs : List Char} {pieces : List StringPiece} (hquote : c ≠ '"')
      (hslash : c ≠ '\\') (hcontrol : 0x20 ≤ c.toNat) (h : SpellsPieces cs pieces) :
      SpellsPieces (c :: cs) (.inl c :: pieces)
  | short {e c : Char} {cs : List Char} {pieces : List StringPiece}
      (he : Reader.shortEscape? e = some c) (h : SpellsPieces cs pieces) :
      SpellsPieces ('\\' :: e :: cs) (.inl c :: pieces)
  | unicode {c₁ c₂ c₃ c₄ : Char} {d₁ d₂ d₃ d₄ : Nat} {cs : List Char} {pieces : List StringPiece}
      (h₁ : hexDigit? c₁ = some d₁) (h₂ : hexDigit? c₂ = some d₂) (h₃ : hexDigit? c₃ = some d₃)
      (h₄ : hexDigit? c₄ = some d₄) (h : SpellsPieces cs pieces) :
      SpellsPieces ('\\' :: 'u' :: c₁ :: c₂ :: c₃ :: c₄ :: cs)
        (.inr (((d₁ * 16 + d₂) * 16 + d₃) * 16 + d₄) :: pieces)

/-- **What stands between the quotes of a string.** -/
def SpellsString (cs : List Char) (s : RawText) : Prop :=
  ∃ pieces, SpellsPieces cs pieces ∧ s = joinUnits pieces

/-! ## 2. Numbers -/

/-- One digit or more. -/
def IsDigits (cs : List Char) : Prop := cs ≠ [] ∧ ∀ c ∈ cs, isAsciiDigit c = true

/-- The digits of an integer part: a lone zero, or digits that do not begin with one. -/
def IsWhole (cs : List Char) : Prop := IsDigits cs ∧ (cs = ['0'] ∨ cs.head? ≠ some '0')

/-- The sign of a number. -/
def minusSign (negative : Bool) : List Char := if negative then ['-'] else []

/-- The point and the digits behind it. No digits are no point. -/
def pointed (fraction : List Char) : List Char := if fraction = [] then [] else '.' :: fraction

theorem pointed_of_ne_nil {fraction : List Char} (h : fraction ≠ []) :
    pointed fraction = '.' :: fraction := if_neg h

/-- **How an exponent is written**: a letter, an optional sign, and digits. -/
inductive SpellsExponent : List Char → Int → Prop
  | bare {c : Char} {digits : List Char} (hc : c = 'e' ∨ c = 'E') (h : IsDigits digits) :
      SpellsExponent (c :: digits) (Numeral.value digits)
  | plus {c : Char} {digits : List Char} (hc : c = 'e' ∨ c = 'E') (h : IsDigits digits) :
      SpellsExponent (c :: '+' :: digits) (Numeral.value digits)
  | minus {c : Char} {digits : List Char} (hc : c = 'e' ∨ c = 'E') (h : IsDigits digits) :
      SpellsExponent (c :: '-' :: digits) (-(Numeral.value digits : Int))

/-- **How a number is written.** Without fraction and exponent it is an integer, which may not have
    too many digits; otherwise it is the double nearest to it. -/
inductive SpellsNumber : List Char → RawJson → Prop
  | int {negative : Bool} {whole : List Char} (h : IsWhole whole)
      (hlength : whole.length ≤ Numeral.maxDigits) :
      SpellsNumber (minusSign negative ++ whole)
        (.int (Numeral.signed negative (Numeral.value whole)))
  | fraction {negative : Bool} {whole fraction : List Char} (h : IsWhole whole)
      (hfraction : IsDigits fraction) :
      SpellsNumber (minusSign negative ++ (whole ++ pointed fraction))
        (.double (Numeral.toDouble negative (Numeral.value (whole ++ fraction))
          (-(fraction.length : Int))))
  | exponent {negative : Bool} {whole fraction cs : List Char} {e : Int} (h : IsWhole whole)
      (hfraction : fraction = [] ∨ IsDigits fraction) (he : SpellsExponent cs e) :
      SpellsNumber (minusSign negative ++ (whole ++ (pointed fraction ++ cs)))
        (.double (Numeral.toDouble negative (Numeral.value (whole ++ fraction))
          (e - fraction.length)))

/-! ## 3. Values -/

/-- Blanks, or none. -/
def IsGap (cs : List Char) : Prop := ∀ c ∈ cs, isJsonBlank c = true

/-- What a part of a text stands for: a value, or parts of one. -/
inductive PartOf (τ : Type) where
  | value (v : JsonOf τ)
  | items (vs : List (JsonOf τ))
  | member (key : τ) (v : JsonOf τ)
  | members (ms : List (τ × JsonOf τ))

/-- What a part of a text stands for, as it is read. -/
abbrev Part := PartOf RawText

/-- **What the parts of a text denote.** Of the members of an object with one key the later value
    counts, in the place of the earlier. -/
inductive Denotes : List Char → Part → Prop
  | word {cs : List Char} {v : RawJson} (h : (cs, v) ∈ Reader.words) : Denotes cs (.value v)
  | number {cs : List Char} {v : RawJson} (h : SpellsNumber cs v) : Denotes cs (.value v)
  | string {cs : List Char} {s : RawText} (h : SpellsString cs s) :
      Denotes ('"' :: (cs ++ ['"'])) (.value (.str s))
  | emptyArray {gap : List Char} (hgap : IsGap gap) :
      Denotes ('[' :: (gap ++ [']'])) (.value (.arr []))
  | array {gap cs : List Char} {items : List RawJson} (hgap : IsGap gap)
      (h : Denotes cs (.items items)) : Denotes ('[' :: (gap ++ (cs ++ [']']))) (.value (.arr items))
  | emptyObject {gap : List Char} (hgap : IsGap gap) :
      Denotes ('{' :: (gap ++ ['}'])) (.value (.obj []))
  | object {gap cs : List Char} {ms : List (RawText × RawJson)} (hgap : IsGap gap)
      (h : Denotes cs (.members ms)) :
      Denotes ('{' :: (gap ++ (cs ++ ['}']))) (.value (.obj (Entries.ofPairs ms)))
  | lastItem {cs gap : List Char} {v : RawJson} (h : Denotes cs (.value v)) (hgap : IsGap gap) :
      Denotes (cs ++ gap) (.items [v])
  | item {cs gap gap' rest : List Char} {v : RawJson} {vs : List RawJson} (h : Denotes cs (.value v))
      (hgap : IsGap gap) (hgap' : IsGap gap') (hrest : Denotes rest (.items vs)) :
      Denotes (cs ++ (gap ++ ',' :: (gap' ++ rest))) (.items (v :: vs))
  | member {key gap gap' cs : List Char} {s : RawText} {v : RawJson} (hkey : SpellsString key s)
      (hgap : IsGap gap) (hgap' : IsGap gap') (h : Denotes cs (.value v)) :
      Denotes ('"' :: (key ++ '"' :: (gap ++ ':' :: (gap' ++ cs)))) (.member s v)
  | lastMember {cs gap : List Char} {s : RawText} {v : RawJson} (h : Denotes cs (.member s v))
      (hgap : IsGap gap) : Denotes (cs ++ gap) (.members [(s, v)])
  | more {cs gap gap' rest : List Char} {s : RawText} {v : RawJson} {ms : List (RawText × RawJson)}
      (h : Denotes cs (.member s v)) (hgap : IsGap gap) (hgap' : IsGap gap')
      (hrest : Denotes rest (.members ms)) :
      Denotes (cs ++ (gap ++ ',' :: (gap' ++ rest))) (.members ((s, v) :: ms))

/-- **The value that a text denotes**, with blanks around it. -/
def IsTextOf (cs : List Char) (v : RawJson) : Prop :=
  ∃ before body behind, IsGap before ∧ Denotes body (.value v) ∧ IsGap behind ∧
    cs = before ++ (body ++ behind)

end SampleSchema
