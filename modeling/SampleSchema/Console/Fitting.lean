import SampleSchema.Text.Blank
import SampleSchema.Text.CellWidth
import SampleSchema.Text.Segments

/-!
# Fitting texts into columns

A line of text is brought to a width counted in columns: tabs become blanks up to the next stop,
what is too long is broken between words or cut off, and what is short is filled with blanks.
-/

namespace SampleSchema

/-- The distance of two tab stops on the console. -/
def tabDistance : Nat := 8

/-- A line with its tabs made blanks, from a column on. -/
def withoutTabs (distance column : Nat) : List Char → List Char
  | [] => []
  | c :: rest =>
    if c = '\t' then
      let next := (column / distance + 1) * distance
      List.replicate (next - column) ' ' ++ withoutTabs distance next rest
    else c :: withoutTabs distance (column + charColumns c) rest

/-- The longest beginning of a text that fits into a width. -/
def fitting (width : Nat) : List Char → List Char
  | [] => []
  | c :: rest => if charColumns c ≤ width then c :: fitting (width - charColumns c) rest else []

/-- A text filled with blanks up to a width. -/
def filled (width : Nat) (cs : List Char) : List Char :=
  cs ++ List.replicate (width - columnCount cs) ' '

/-- A text cut to a width. -/
def cut (width : Nat) (cs : List Char) : List Char := filled width (fitting width cs)

/-- A text that is too long for a width, cut with an ellipsis at the end. -/
def cutWithEllipsis (width : Nat) (cs : List Char) : List Char :=
  if width < columnCount cs then cut (width - 1) cs ++ ['…'] else cs

/-- A text without the blanks at its end. -/
def withoutEnd (cs : List Char) : List Char := (cs.reverse.dropWhile isBlank).reverse

/-- A text in the middle of a width. -/
def centered (width : Nat) (cs : List Char) : List Char :=
  let cs := withoutEnd cs
  filled width (List.replicate ((width - columnCount cs) / 2) ' ' ++ cs)

/-! ## Breaking lines -/

/-- The words of a text with the blanks around them: blanks before the first one belong to it, all
    others to the word before them. The word under way is held in reverse; `closed` tells that its
    blanks have begun. -/
def spacedWords (word : List Char) (closed : Bool) : List Char → List (List Char)
  | [] => if word.isEmpty then [] else [word.reverse]
  | c :: rest =>
    if isBlank c then spacedWords (c :: word) (!word.all isBlank) rest
    else if closed then word.reverse :: spacedWords [c] false rest
    else spacedWords (c :: word) false rest

/-- A long word in pieces that fit into a width. The fuel bounds the number of pieces. -/
def pieces (width : Nat) : Nat → List Char → List (List Char)
  | 0, cs => [cs]
  | fuel + 1, cs =>
    let head := fitting width cs
    if head.isEmpty ∨ head.length = cs.length then [cs]
    else head :: pieces width fuel (cs.drop head.length)

/-- Words set into lines; `line` is the line under way, in reverse. A word that fits on no line is
    broken if `fold` allows it. -/
def setWords (width : Nat) (fold : Bool) (line : List Char) : List (List Char) → List (List Char)
  | [] => [line]
  | word :: rest =>
    if columnCount (withoutEnd word) + columnCount line ≤ width then
      setWords width fold (line ++ word) rest
    else if width < columnCount (withoutEnd word) ∧ fold then
      let parts := pieces width word.length word
      let before := if line.isEmpty then [] else [line]
      before ++ parts.dropLast ++ setWords width fold (parts.getLast?.getD []) rest
    else if line.isEmpty then setWords width fold word rest
    else line :: setWords width fold word rest

/-- A line without the blanks at its end that lie beyond a number of characters. -/
def withoutExcess (width : Nat) (cs : List Char) : List Char :=
  let blanks := cs.length - (withoutEnd cs).length
  cs.take (cs.length - min blanks (cs.length - width))

/-- A text broken into lines of a width, between words where it can be. -/
def brokenLines (width : Nat) (fold : Bool) (cs : List Char) : List (List Char) :=
  (lines cs).flatMap fun line =>
    let line := withoutTabs tabDistance 0 line
    (setWords width fold [] (spacedWords [] false line)).map (withoutExcess width)

end SampleSchema
