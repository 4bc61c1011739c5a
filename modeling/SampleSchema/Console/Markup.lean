import SampleSchema.Text.Blank
import SampleSchema.Text.Case

/-!
# Markup

Text on its way to the console holds TAGS: a bracket, a lower-case letter or one of `#`, `/`, `@`,
and then anything up to the closing bracket without another opening one. A tag sets a style or ends
one; of a tag nothing is printed. Backslashes before a tag escape: two of them stand for one, and a
single one left over makes the tag literal.

`Markup.escape` makes a text literal, and `Markup.render` gives the text that is printed. Rendering
fails where a tag closes what is not open.
-/

namespace SampleSchema

/-- A tag closes what is not open. -/
inductive MarkupFault where
  /-- The style that the tag names, at the position of the tag. -/
  | notOpen (tag : String) (position : Nat)
  /-- Any style. -/
  | nothingOpen (position : Nat)
  deriving DecidableEq, Repr

/-- The text of a fault. -/
def MarkupFault.message : MarkupFault → String
  | .notOpen tag position =>
    s!"closing tag '[{tag}]' at position {position} doesn't match any open tag"
  | .nothingOpen position => s!"closing tag '[/]' at position {position} has nothing to close"

namespace Markup

/-! ## 1. Tags -/

/-- Can a tag begin with this character? -/
def isTagStart (c : Char) : Bool := ('a' ≤ c && c ≤ 'z') || c == '#' || c == '/' || c == '@'

/-- Does a closing bracket come before any opening one? -/
def closes (cs : List Char) : Bool := (cs.find? fun c => c == '[' || c == ']') == some ']'

/-- Is what follows an opening bracket a tag? -/
def opensTag : List Char → Bool
  | c :: rest => isTagStart c && closes rest
  | [] => false

/-- A number of backslashes. -/
def backslashes (n : Nat) : List Char := List.replicate n '\\'

/-! ## 2. Escaping -/

/-- A text made literal, behind `pending` backslashes. -/
def escapeFrom (pending : Nat) : List Char → List Char
  | [] => backslashes pending
  | c :: rest =>
    if c = '\\' then escapeFrom (pending + 1) rest
    else if c = '[' ∧ opensTag rest = true then
      backslashes (2 * pending + 1) ++ c :: escapeFrom 0 rest
    else backslashes pending ++ c :: escapeFrom 0 rest

/-- A single backslash at the end, doubled; it would escape what is put behind the text. -/
def guardEnd (cs : List Char) : List Char :=
  match cs.reverse with
  | '\\' :: '\\' :: _ => cs
  | '\\' :: _ => cs ++ ['\\']
  | _ => cs

/-- **A text made literal.** -/
def escape (cs : List Char) : List Char := guardEnd (escapeFrom 0 cs)

/-! ## 3. Styles -/

/-- The attributes of a style that have a short name. -/
def shortStyles : List (String × String) := [
  ("b", "bold"), ("d", "dim"), ("i", "italic"), ("u", "underline"), ("r", "reverse"),
  ("c", "conceal"), ("s", "strike"), ("uu", "underline2"), ("o", "overline")]

/-- The name of a style, in its one spelling. -/
def styleName (cs : List Char) : String :=
  let name := String.ofList ((trimmed isBlank cs).flatMap lower)
  (shortStyles.lookup name).getD name

/-- The name that a tag begins with, up to an equals sign. -/
def tagName (tag : List Char) : List Char := tag.takeWhile (· ≠ '=')

/-- The open styles, the innermost first, after a tag. -/
def applyTag (position : Nat) (tag : List Char) (opened : List String) :
    Except MarkupFault (List String) :=
  match tagName tag with
  | '/' :: name =>
    if (trimmed isBlank name).isEmpty then
      match opened with
      | [] => .error (.nothingOpen position)
      | _ :: outer => .ok outer
    else if opened.contains (styleName name) then .ok (opened.erase (styleName name))
    else .error (.notOpen (String.ofList tag) position)
  | name => .ok (styleName name :: opened)

/-! ## 4. Rendering -/

/-- Where the reader of markup stands: in text, behind a number of backslashes; or in a tag that
    began at a position, with what is read of it in reverse. -/
inductive Reading where
  | text (pending : Nat)
  | tag (start : Nat) (read : List Char)

/-- The text that markup prints, from a position on; `opened` are the styles that are open. -/
def renderFrom (position : Nat) (opened : List String) :
    Reading → List Char → Except MarkupFault (List Char)
  | .text pending, [] => .ok (backslashes pending)
  | .tag _ _, [] => .ok []
  | .text pending, c :: rest =>
    let after (printed : List Char) : Except MarkupFault (List Char) :=
      (renderFrom (position + 1) opened (.text 0) rest).map (printed ++ ·)
    if c = '\\' then renderFrom (position + 1) opened (.text (pending + 1)) rest
    else if c = '[' then
      if opensTag rest then
        if pending % 2 = 1 then after (backslashes (pending / 2) ++ [c])
        else
          (renderFrom (position + 1) opened (.tag position []) rest).map
            (backslashes (pending / 2) ++ ·)
      else after (backslashes (pending - 1) ++ [c])
    else after (backslashes pending ++ [c])
  | .tag start read, c :: rest =>
    if c = ']' then
      match applyTag start read.reverse opened with
      | .ok opened => renderFrom (position + 1) opened (.text 0) rest
      | .error fault => .error fault
    else renderFrom (position + 1) opened (.tag start (c :: read)) rest

/-- Does nothing print for this control character? Bell, backspace, vertical tab, form feed and
    carriage return. -/
def isSilent (c : Char) : Bool := [0x07, 0x08, 0x0B, 0x0C, 0x0D].contains c.toNat

/-- **The text that markup prints.** A text without brackets is literal. -/
def render (cs : List Char) : Except MarkupFault (List Char) :=
  let printed := if cs.contains '[' then renderFrom 0 [] (.text 0) cs else .ok cs
  printed.map fun text => text.filter fun c => !isSilent c

end Markup

end SampleSchema
