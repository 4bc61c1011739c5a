/-!
# Code points

An escape in a JSON text can name half of a surrogate pair without its other half. Such a half is no
character: it has no bytes in a file and cannot be printed. A CODE POINT is a character or such a
half, and what a string of a JSON text stands for is a list of code points. A text of characters is
one of them (`CodePoint.ofText`), and a list without halves is a text (`CodePoint.text?`).
-/

namespace SampleSchema

/-- A character, or half of a surrogate pair that stands alone. -/
inductive CodePoint where
  | char (c : Char)
  /-- The half with the number `0xD800 + offset`. -/
  | half (offset : Fin 0x800)
  deriving DecidableEq, Repr

/-- A text as it is read. -/
abbrev RawText := List CodePoint

namespace CodePoint

/-- The character that a code point is. -/
def char? : CodePoint → Option Char
  | .char c => some c
  | .half _ => none

/-- Is this half of a surrogate pair? -/
def isHalf : CodePoint → Bool
  | .char _ => false
  | .half _ => true

/-- The code point of a UTF-16 unit that stands alone. -/
def ofUnit (unit : Nat) : CodePoint :=
  if h : 0xD800 ≤ unit ∧ unit ≤ 0xDFFF then .half ⟨unit - 0xD800, by omega⟩
  else .char (Char.ofNat unit)

/-- The code points of a text. -/
def ofText (text : String) : RawText := text.toList.map .char

/-- The text of code points, if each of them is a character. -/
def text? (points : RawText) : Option String := (points.mapM char?).map String.ofList

/-- A text with the replacement character in the place of each half. -/
def replaced (points : RawText) : String :=
  String.ofList (points.map fun point => point.char?.getD '\uFFFD')

theorem mapM_char?_eq_some_iff {points : RawText} {cs : List Char} :
    points.mapM char? = some cs ↔ points = cs.map .char := by
  induction points generalizing cs with
  | nil => cases cs <;> simp
  | cons point rest ih =>
    rw [List.mapM_cons]
    cases point with
    | half offset => cases cs <;> simp [char?]
    | char c =>
      cases cs with
      | nil => simp [char?, Option.bind_eq_some_iff]
      | cons d cs =>
        simp only [List.map_cons, List.cons.injEq, char.injEq, ← ih]
        simp [char?, Option.bind_eq_some_iff]
        exact and_comm

/-- **Code points are a text exactly if they are its code points.** -/
theorem text?_eq_some_iff {points : RawText} {text : String} :
    text? points = some text ↔ points = ofText text := by
  unfold text? ofText
  rw [Option.map_eq_some_iff]
  constructor
  · rintro ⟨cs, hcs, rfl⟩
    rw [String.toList_ofList]
    exact mapM_char?_eq_some_iff.mp hcs
  · intro h
    exact ⟨text.toList, mapM_char?_eq_some_iff.mpr h, String.ofList_toList⟩

theorem text?_ofText (text : String) : text? (ofText text) = some text :=
  text?_eq_some_iff.mpr rfl

theorem replaced_ofText (text : String) : replaced (ofText text) = text := by
  unfold replaced ofText
  rw [List.map_map]
  exact (congrArg String.ofList (List.map_id _)).trans String.ofList_toList

/-- Texts are told apart by their code points. -/
theorem ofText_injective : Function.Injective ofText := by
  intro s t h
  have hs := text?_ofText s
  rw [h, text?_ofText] at hs
  exact (Option.some.inj hs).symm

end CodePoint

end SampleSchema
