import SampleSchema.Entries

/-!
# File trees

Files and directories, as one value. A LOCATION is the list of names from an entry up to the root,
its own name first, so the parent of a location is its tail; the empty location is the root, which
is always a directory. Two laws are part of the type: what stands above an entry is a directory, and
so is the working directory. There are two ways to change a tree, `insert?` and `remove?`; each
changes one location and leaves every other one as it was (`find?_insert?_of_ne`,
`find?_remove?_of_ne`).
-/

namespace SampleSchema

/-- The names from an entry up to the root. -/
abbrev Location := List String

/-- A location is not its own parent. -/
theorem Location.ne_cons_self (name : String) (up : Location) : up ≠ name :: up := by
  intro h
  have := congrArg List.length h
  simp at this

/-- What stands at a location. -/
inductive Entry where
  | directory
  | file (bytes : List UInt8)
  deriving DecidableEq, Repr

namespace Entry

/-- What stands at a location of a list of entries. -/
def find? (entries : List (Location × Entry)) : Location → Option Entry
  | [] => some .directory
  | loc => Entries.get? entries loc

theorem find?_put_self (entries : List (Location × Entry)) (name : String) (up : Location)
    (e : Entry) : find? (Entries.put entries (name :: up) e) (name :: up) = some e := by
  simp [find?, Entries.get?_put_self]

theorem find?_put_of_ne (entries : List (Location × Entry)) {loc other : Location}
    (e : Entry) (h : other ≠ loc) :
    find? (Entries.put entries loc e) other = find? entries other := by
  cases other with
  | nil => rfl
  | cons name up => simp [find?, Entries.get?_put_of_ne _ _ h]

theorem find?_erase_of_ne (entries : List (Location × Entry)) {loc other : Location}
    (h : other ≠ loc) :
    find? (Entries.erase entries loc) other = find? entries other := by
  cases other with
  | nil => rfl
  | cons name up => simp [find?, Entries.get?_erase_of_ne _ h]

end Entry

/-- A tree of files and directories. -/
structure FileTree where
  entries : List (Location × Entry)
  /-- The working directory. -/
  here : Location
  /-- Can files be read? -/
  readable : Bool := true
  above : ∀ name up, Entry.find? entries (name :: up) ≠ none →
    Entry.find? entries up = some .directory
  isDirectory_here : Entry.find? entries here = some .directory
  deriving DecidableEq

namespace FileTree

/-- What stands at a location. -/
def find? (tree : FileTree) (loc : Location) : Option Entry := Entry.find? tree.entries loc

/-- The tree that holds nothing but its root. -/
def empty : FileTree where
  entries := []
  here := []
  above name up h := by simp [Entry.find?, Entries.get?] at h
  isDirectory_here := rfl

instance : Inhabited FileTree := ⟨empty⟩

/-- **A file or directory put at a location**, which must be below a directory and must not be one
    itself. -/
def insert? (tree : FileTree) (name : String) (up : Location) (e : Entry) : Option FileTree :=
  if h : tree.find? up = some .directory ∧ tree.find? (name :: up) ≠ some .directory then
    some
      { tree with
        entries := Entries.put tree.entries (name :: up) e
        above := by
          intro n u hn
          by_cases hu : u = name :: up
          · subst hu
            by_cases hs : n :: name :: up = name :: up
            · exact absurd hs.symm (Location.ne_cons_self _ _)
            · rw [Entry.find?_put_of_ne _ _ hs] at hn
              exact absurd (tree.above n _ hn) h.2
          · rw [Entry.find?_put_of_ne _ _ hu]
            by_cases hs : n :: u = name :: up
            · simp only [List.cons.injEq] at hs
              rw [hs.2]
              exact h.1
            · rw [Entry.find?_put_of_ne _ _ hs] at hn
              exact tree.above n u hn
        isDirectory_here := by
          by_cases hh : tree.here = name :: up
          · exact absurd (hh ▸ tree.isDirectory_here) h.2
          · rw [Entry.find?_put_of_ne _ _ hh]
            exact tree.isDirectory_here }
  else none

theorem find?_insert?_self {tree tree' : FileTree} {name : String} {up : Location} {e : Entry}
    (h : tree.insert? name up e = some tree') : tree'.find? (name :: up) = some e := by
  simp only [insert?] at h
  split at h
  · simp only [Option.some.injEq] at h
    subst h
    exact Entry.find?_put_self _ _ _ _
  · simp at h

theorem find?_insert?_of_ne {tree tree' : FileTree} {name : String} {up other : Location}
    {e : Entry} (h : tree.insert? name up e = some tree') (hne : other ≠ name :: up) :
    tree'.find? other = tree.find? other := by
  simp only [insert?] at h
  split at h
  · simp only [Option.some.injEq] at h
    subst h
    exact Entry.find?_put_of_ne _ _ hne
  · simp at h

/-- What is put somewhere does not move the working directory, and reading is as before. -/
theorem here_insert? {tree tree' : FileTree} {name : String} {up : Location} {e : Entry}
    (h : tree.insert? name up e = some tree') :
    tree'.here = tree.here ∧ tree'.readable = tree.readable := by
  simp only [insert?] at h
  split at h
  · simp only [Option.some.injEq] at h
    subst h
    exact ⟨rfl, rfl⟩
  · simp at h

/-- Nothing is put in the place of a directory. -/
theorem find?_ne_directory_of_insert? {tree tree' : FileTree} {name : String} {up : Location}
    {e : Entry} (h : tree.insert? name up e = some tree') :
    tree.find? (name :: up) ≠ some .directory := by
  simp only [insert?] at h
  split at h
  · rename_i hd
    exact hd.2
  · simp at h

/-- **A tree without the file at a location.** -/
def remove? (tree : FileTree) (loc : Location) : Option FileTree :=
  if h : tree.find? loc ≠ some .directory then
    some
      { tree with
        entries := Entries.erase tree.entries loc
        above := by
          intro n u hn
          have hu : u ≠ loc := by
            intro hu
            subst hu
            by_cases hs : n :: u = u
            · exact Location.ne_cons_self _ _ hs.symm
            · rw [Entry.find?_erase_of_ne _ hs] at hn
              exact h (tree.above n u hn)
          rw [Entry.find?_erase_of_ne _ hu]
          by_cases hs : n :: u = loc
          · subst hs
            simp [Entry.find?, Entries.get?_erase_self] at hn
          · rw [Entry.find?_erase_of_ne _ hs] at hn
            exact tree.above n u hn
        isDirectory_here := by
          have hh : tree.here ≠ loc := fun hh => h (hh ▸ tree.isDirectory_here)
          rw [Entry.find?_erase_of_ne _ hh]
          exact tree.isDirectory_here }
  else none

theorem find?_remove?_of_ne {tree tree' : FileTree} {loc other : Location}
    (h : tree.remove? loc = some tree') (hne : other ≠ loc) :
    tree'.find? other = tree.find? other := by
  simp only [remove?] at h
  split at h
  · simp only [Option.some.injEq] at h
    subst h
    exact Entry.find?_erase_of_ne _ hne
  · simp at h

/-- A tree seen from another working directory. -/
def enter? (tree : FileTree) (loc : Location) : Option FileTree :=
  if h : tree.find? loc = some .directory then
    some { tree with here := loc, isDirectory_here := h }
  else none

/-- The files below the working directory with the path to each, in the order of their paths. -/
def files (tree : FileTree) : List (String × List UInt8) :=
  let below := tree.entries.filterMap fun (loc, e) =>
    match e with
    | .file bytes =>
      if tree.here.isSuffixOf loc then
        some ("/".intercalate (loc.take (loc.length - tree.here.length)).reverse, bytes)
      else none
    | .directory => none
  below.mergeSort fun a b => a.1 ≤ b.1

/-- The files below the working directory that another tree does not hold as they are. -/
def changedFiles (before after : FileTree) : List (String × List UInt8) :=
  after.files.filter fun f => !before.files.contains f

end FileTree

end SampleSchema
