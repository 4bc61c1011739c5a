import SampleSchema.Text.Quoted
import SampleSchema.Text.Segments

/-!
# Paths

A path is where it begins and the names on the way. Repeated slashes, `.` and a slash at the end
say nothing and are dropped when a text is read; `..` stays, as what it leads to is known to the
file tree alone. A path that begins with exactly two slashes keeps them. The empty path is written
`.`.
-/

namespace SampleSchema

/-- Where a path begins. -/
inductive PathRoot where
  | relative
  | slash
  | doubleSlash
  deriving DecidableEq, Repr

/-- The slashes of a beginning. -/
def PathRoot.text : PathRoot → String
  | .relative => ""
  | .slash => "/"
  | .doubleSlash => "//"

/-- The beginning of a written path. -/
def PathRoot.ofText : List Char → PathRoot
  | '/' :: '/' :: '/' :: _ => .slash
  | '/' :: '/' :: _ => .doubleSlash
  | '/' :: _ => .slash
  | _ => .relative

/-- A name that a path may hold: neither empty nor a single dot, and without a slash. -/
def IsPathPart (part : String) : Prop := part ≠ "" ∧ part ≠ "." ∧ '/' ∉ part.toList

instance (part : String) : Decidable (IsPathPart part) := by
  unfold IsPathPart
  infer_instance

/-- A path. -/
structure Path where
  root : PathRoot
  parts : List String
  isPathPart : ∀ part ∈ parts, IsPathPart part
  deriving DecidableEq, Repr

namespace Path

/-- The names in a text between slashes, without those that say nothing. -/
def partsOf (cs : List Char) : List String :=
  ((segments (· == '/') cs).filter fun s => s ≠ [] ∧ s ≠ ['.']).map String.ofList

theorem isPathPart_of_mem_partsOf {cs : List Char} {part : String} (h : part ∈ partsOf cs) :
    IsPathPart part := by
  simp only [partsOf, List.mem_map, List.mem_filter, decide_eq_true_eq] at h
  obtain ⟨s, ⟨hs, hne, hdot⟩, rfl⟩ := h
  refine ⟨?_, ?_, ?_⟩
  · intro e
    exact hne (by simpa using congrArg String.toList e)
  · intro e
    exact hdot (by simpa using congrArg String.toList e)
  · intro hm
    rw [String.toList_ofList] at hm
    have := not_separator_of_mem_segments hs '/' hm
    simp at this

/-- **The path that a text denotes.** -/
def ofText (text : String) : Path where
  root := .ofText text.toList
  parts := partsOf text.toList
  isPathPart _ h := isPathPart_of_mem_partsOf h

/-- **The text of a path.** -/
def text (p : Path) : String :=
  if p.root = .relative ∧ p.parts = [] then "." else p.root.text ++ "/".intercalate p.parts

/-- A path seen from another one; a path with a root is the same from everywhere. -/
def join (base p : Path) : Path :=
  if p.root = .relative then
    { root := base.root
      parts := base.parts ++ p.parts
      isPathPart part h := (List.mem_append.1 h).elim (base.isPathPart part) (p.isPathPart part) }
  else p

/-- A path with a written path behind it. -/
def child (base : Path) (text : String) : Path := base.join (.ofText text)

/-- The last name of a path. -/
def name? (p : Path) : Option String := p.parts.getLast?

/-- The path without its last name; a path without names is its own parent. -/
def parent (p : Path) : Path where
  root := p.root
  parts := p.parts.dropLast
  isPathPart part h := p.isPathPart part (List.dropLast_subset _ h)

/-- A name without its suffix. The suffix begins at the last dot, if that is neither the first nor
    the last character. -/
def withoutSuffix (name : List Char) : List Char :=
  let behind := name.reverse.takeWhile (· ≠ '.')
  let before := (name.reverse.drop (behind.length + 1)).reverse
  if behind.isEmpty || before.isEmpty then name else before

/-- The last name without its suffix. -/
def stem (p : Path) : String := String.ofList (withoutSuffix (p.name?.getD "").toList)

/-- The way from one path to another below it. -/
def relativeTo? (p base : Path) : Option Path :=
  if p.root = base.root ∧ base.parts.isPrefixOf p.parts then
    some
      { root := .relative
        parts := p.parts.drop base.parts.length
        isPathPart part h := p.isPathPart part (List.drop_subset _ _ h) }
  else none

/-- Says that one path does not lie below another. -/
def notBelowMessage (p base : Path) : String :=
  quoted p.text ++ " is not in the subpath of " ++
    quoted (base.root.text ++ "/".intercalate base.parts) ++
    " OR one path is relative and the other is absolute."

end Path

end SampleSchema
