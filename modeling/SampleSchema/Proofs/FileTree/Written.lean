import SampleSchema.FileTree.Access

/-!
# What writing changes in a file tree

`FileTree.Written` relates the trees before and after texts were written: the texts stand where they
were written, every other file is as it was, nothing is gone, and what was added are directories on
the way. Each step of writing is an instance of it, a step that fails as well:

* `FileTree.makes_makeDirectories`: a directory and those above it;
* `FileTree.written_of_writeText`, `FileTree.written_of_writeText_error`: a text below them.

Steps are put together by `FileTree.Written.trans`. What makes that work is that a path which leads
somewhere leads there still when only directories came to the tree (`FileTree.locate_of_kept`).
-/

namespace SampleSchema

/-- The state that an action leaves, whether it fails or not. -/
def stateLeft {ε σ α : Type} : EStateM.Result ε σ α → σ
  | .ok _ s => s
  | .error _ s => s

/-- What an action gives that does not fail. -/
def given? {ε σ α : Type} : EStateM.Result ε σ α → Option α
  | .ok a _ => some a
  | .error _ _ => none

theorem exists_ok_of_given? {ε σ α : Type} {result : EStateM.Result ε σ α} {a : α}
    (h : given? result = some a) : ∃ s, result = .ok a s := by
  cases result with
  | ok b s => exact ⟨s, congrArg (EStateM.Result.ok · s) (Option.some.inj h)⟩
  | error e s => cases h

namespace FileTree

/-! ## 1. Ways -/

/-- **Every directory of one tree is one of the other**, and both are seen from the same place. -/
structure Kept (before after : FileTree) : Prop where
  here : after.here = before.here
  directories : ∀ loc, before.find? loc = some .directory → after.find? loc = some .directory

theorem Kept.refl (tree : FileTree) : Kept tree tree := ⟨rfl, fun _ h => h⟩

theorem Kept.trans {before between after : FileTree} (h : Kept before between)
    (h' : Kept between after) : Kept before after :=
  ⟨h'.here.trans h.here, fun loc hloc => h'.directories loc (h.directories loc hloc)⟩

section Kept

variable {before after : FileTree} (h : Kept before after)
include h

theorem step_of_kept {loc loc' : Location} {part : String}
    (hstep : before.step loc part = .ok loc') : after.step loc part = .ok loc' := by
  unfold step at hstep ⊢
  cases hfind : before.find? loc with
  | none =>
    rw [hfind] at hstep
    cases hstep
  | some e =>
    rw [hfind] at hstep
    cases e with
    | file bytes => cases hstep
    | directory =>
      rw [h.directories loc hfind]
      exact hstep

theorem foldlM_step_of_kept {parts : List String} {loc loc' : Location}
    (hwalk : parts.foldlM before.step loc = .ok loc') :
    parts.foldlM after.step loc = .ok loc' := by
  induction parts generalizing loc with
  | nil => exact hwalk
  | cons part parts ih =>
    rw [List.foldlM_cons] at hwalk ⊢
    cases hstep : before.step loc part with
    | error e =>
      rw [hstep] at hwalk
      cases hwalk
    | ok next =>
      rw [hstep] at hwalk
      rw [step_of_kept h hstep]
      exact ih hwalk

/-- **A path that leads somewhere leads there still.** -/
theorem locate_of_kept {p : Path} {loc : Location} (hloc : before.locate p = .ok loc) :
    after.locate p = .ok loc := by
  have hstart : after.start p = before.start p := by
    unfold start
    rw [h.here]
  unfold locate at hloc ⊢
  split at hloc
  · cases hloc
  · rename_i hnull
    rw [if_neg hnull]
    split at hloc
    · cases hloc
    · rename_i hlong
      rw [if_neg hlong, hstart]
      exact foldlM_step_of_kept h hloc

end Kept

theorem entryAt_eq_ok_iff {tree : FileTree} {p : Path} {e : Entry} :
    tree.entryAt p = .ok e ↔ ∃ loc, tree.locate p = .ok loc ∧ tree.find? loc = some e := by
  unfold entryAt
  cases tree.locate p with
  | error fault => simp
  | ok loc => cases hfind : tree.find? loc <;> simp [hfind]

/-- A path whose last name is a name leads to an entry of that name. -/
theorem exists_of_locate {tree : FileTree} {p : Path} {name : String} {loc : Location}
    (hname : p.name? = some name) (hdots : name ≠ "..") (hloc : tree.locate p = .ok loc) :
    ∃ up, loc = name :: up := by
  obtain ⟨init, hparts⟩ := List.getLast?_eq_some_iff.mp hname
  have hwalk : p.parts.foldlM tree.step (tree.start p) = .ok loc := by
    unfold locate at hloc
    split at hloc
    · cases hloc
    · split at hloc
      · cases hloc
      · exact hloc
  rw [hparts, List.foldlM_append] at hwalk
  cases hinit : init.foldlM tree.step (tree.start p) with
  | error e =>
    rw [hinit] at hwalk
    cases hwalk
  | ok up =>
    rw [hinit] at hwalk
    have hlast : tree.step up name = .ok loc := by
      rw [← hwalk]
      exact (bind_pure (tree.step up name)).symm
    unfold step at hlast
    split at hlast
    · cases hlast
    · cases hlast
    · rw [if_neg hdots] at hlast
      split at hlast
      · cases hlast
      · cases hlast
        exact ⟨up, rfl⟩

/-- **Two paths that never lead to the same place.** -/
def Apart (p q : Path) : Prop :=
  ∀ (tree : FileTree) (loc : Location), tree.locate p = .ok loc → tree.locate q ≠ .ok loc

/-- Paths with different last names never lead to the same place. -/
theorem apart_of_name_ne {p q : Path} {a b : String} (hp : p.name? = some a) (hq : q.name? = some b)
    (ha : a ≠ "..") (hb : b ≠ "..") (hne : a ≠ b) : Apart p q := by
  intro tree loc hloc hloc'
  obtain ⟨up, rfl⟩ := exists_of_locate hp ha hloc
  obtain ⟨up', hsame⟩ := exists_of_locate hq hb hloc'
  exact hne (List.cons.inj hsame).1

/-! ## 2. Trees before and after -/

/-- **What writing changes.** The `texts` stand where their paths lead. What else there was is as it
    was, and what else came are directories: a beginning of the way to the directory of one of the
    paths `ways` leads to each. -/
structure Written (texts : List (Path × String)) (ways : List Path) (before after : FileTree) :
    Prop extends Kept before after where
  readable : after.readable = before.readable
  holds : ∀ t ∈ texts, after.entryAt t.1 = .ok (.file (Utf8.encode t.2.toList))
  elsewhere : ∀ loc, (∀ t ∈ texts, after.locate t.1 ≠ .ok loc) →
    after.find? loc = before.find? loc ∨
    (before.find? loc = none ∧ after.find? loc = some .directory ∧
      ∃ p ∈ ways, ∃ n, after.locate (outer p.parent n) = .ok loc)

section Written

variable {texts more : List (Path × String)} {ways : List Path} {before between after : FileTree}

theorem written_refl (ways : List Path) (tree : FileTree) : Written [] ways tree tree where
  toKept := .refl tree
  readable := rfl
  holds _ ht := absurd ht List.not_mem_nil
  elsewhere _ _ := Or.inl rfl

theorem Written.widen (h : Written texts ways before after) {ways' : List Path}
    (hsub : ways ⊆ ways') : Written texts ways' before after where
  toKept := h.toKept
  readable := h.readable
  holds := h.holds
  elsewhere loc hloc := by
    rcases h.elsewhere loc hloc with hsame | ⟨hnone, hnew, p, hp, hway⟩
    · exact Or.inl hsame
    · exact Or.inr ⟨hnone, hnew, p, hsub hp, hway⟩

/-- **Every other file is as it was.** -/
theorem Written.find?_file_iff (h : Written texts ways before after) {loc : Location}
    (hloc : ∀ t ∈ texts, after.locate t.1 ≠ .ok loc) (bytes : List UInt8) :
    after.find? loc = some (.file bytes) ↔ before.find? loc = some (.file bytes) := by
  rcases h.elsewhere loc hloc with hsame | ⟨hnone, hnew, _⟩
  · rw [hsame]
  · rw [hnone, hnew]
    simp

/-- A text that was written still stands after others were written elsewhere. -/
theorem Written.entryAt_of_apart (h : Written more ways between after) {p : Path}
    {bytes : List UInt8} (hp : between.entryAt p = .ok (.file bytes))
    (hapart : ∀ t ∈ more, Apart p t.1) : after.entryAt p = .ok (.file bytes) := by
  obtain ⟨loc, hloc, hfind⟩ := entryAt_eq_ok_iff.mp hp
  have hloc' : after.locate p = .ok loc := locate_of_kept h.toKept hloc
  have hother : ∀ t ∈ more, after.locate t.1 ≠ .ok loc := fun t ht => hapart t ht after loc hloc'
  exact entryAt_eq_ok_iff.mpr ⟨loc, hloc', (h.find?_file_iff hother bytes).mpr hfind⟩

/-- **One writing after the other**, to places that are not the same. -/
theorem Written.trans (h : Written texts ways before between) (h' : Written more ways between after)
    (hapart : ∀ s ∈ texts, ∀ t ∈ more, Apart s.1 t.1) :
    Written (texts ++ more) ways before after where
  toKept := h.toKept.trans h'.toKept
  readable := h'.readable.trans h.readable
  holds t ht := by
    rcases List.mem_append.mp ht with ht | ht
    · exact h'.entryAt_of_apart (h.holds t ht) (hapart t ht)
    · exact h'.holds t ht
  elsewhere loc hloc := by
    have hfirst : ∀ t ∈ texts, between.locate t.1 ≠ .ok loc := fun t ht hbetween =>
      hloc t (List.mem_append_left _ ht) (locate_of_kept h'.toKept hbetween)
    have hsecond : ∀ t ∈ more, after.locate t.1 ≠ .ok loc := fun t ht =>
      hloc t (List.mem_append_right _ ht)
    rcases h'.elsewhere loc hsecond with hsame' | ⟨hnone', hnew', hway'⟩
    · rw [hsame']
      rcases h.elsewhere loc hfirst with hsame | ⟨hnone, hnew, p, hp, n, hway⟩
      · exact Or.inl hsame
      · exact Or.inr ⟨hnone, hnew, p, hp, n, locate_of_kept h'.toKept hway⟩
    · -- a directory that the second writing added was not there before the first
      rcases h.elsewhere loc hfirst with hsame | ⟨_, hnew, _⟩
      · exact Or.inr ⟨hsame ▸ hnone', hnew', hway'⟩
      · rw [hnew] at hnone'
        cases hnone'

/-- Writing goes on below directories that were made for it. -/
theorem Written.trans_made (h : Written [] ways before between)
    (h' : Written more ways between after) : Written more ways before after :=
  h.trans h' fun _ hs => absurd hs List.not_mem_nil

end Written

/-! ## 3. Entries put into a tree -/

section Insert

variable {tree tree' : FileTree} {p : Path} {name : String} {up : Location}

theorem written_of_insert?_directory {n : Nat}
    (hloc : tree.locate (outer p.parent n) = .ok (name :: up))
    (hnone : tree.find? (name :: up) = none)
    (h : tree.insert? name up .directory = some tree') : Written [] [p] tree tree' := by
  have hkept : Kept tree tree' := by
    refine ⟨(here_insert? h).1, fun loc hdir => ?_⟩
    have hne : loc ≠ name :: up := by
      rintro rfl
      rw [hnone] at hdir
      cases hdir
    rw [find?_insert?_of_ne h hne]
    exact hdir
  refine ⟨hkept, (here_insert? h).2, fun t ht => absurd ht List.not_mem_nil, fun loc _ => ?_⟩
  by_cases hself : loc = name :: up
  · subst hself
    have hway : tree'.locate (outer p.parent n) = .ok (name :: up) := locate_of_kept hkept hloc
    exact Or.inr ⟨hnone, find?_insert?_self h, p, List.mem_singleton_self p, n, hway⟩
  · exact Or.inl (find?_insert?_of_ne h hself)

theorem written_of_insert?_file {text : String} (hloc : tree.locate p = .ok (name :: up))
    (h : tree.insert? name up (.file (Utf8.encode text.toList)) = some tree') :
    Written [(p, text)] [p] tree tree' := by
  have hkept : Kept tree tree' := by
    refine ⟨(here_insert? h).1, fun loc hdir => ?_⟩
    have hne : loc ≠ name :: up := by
      rintro rfl
      exact find?_ne_directory_of_insert? h hdir
    rw [find?_insert?_of_ne h hne]
    exact hdir
  have hloc' : tree'.locate p = .ok (name :: up) := locate_of_kept hkept hloc
  refine ⟨hkept, (here_insert? h).2, fun t ht => ?_, fun loc hother => ?_⟩
  · rw [List.mem_singleton.mp ht]
    exact entryAt_eq_ok_iff.mpr ⟨name :: up, hloc', find?_insert?_self h⟩
  · have hne : loc ≠ name :: up := by
      rintro rfl
      exact hother (p, text) (List.mem_singleton_self _) hloc'
    exact Or.inl (find?_insert?_of_ne h hne)

/-- Putting an entry somewhere either changes the tree there, or is refused because of a directory
    and changes nothing. -/
theorem place_cases (p : Path) (loc : Location) (e : Entry) (tree : FileTree) :
    (∃ name up tree', loc = name :: up ∧ tree.insert? name up e = some tree' ∧
      place p loc e tree = .ok () tree') ∨
    place p loc e tree = .error ⟨.isADirectory, p⟩ tree := by
  cases loc with
  | nil => exact Or.inr rfl
  | cons name up =>
    cases hinsert : tree.insert? name up e with
    | none =>
      refine Or.inr ?_
      simp only [place, hinsert]
    | some tree' =>
      refine Or.inl ⟨name, up, tree', rfl, hinsert, ?_⟩
      simp only [place, hinsert]

end Insert

/-! ## 4. Directories -/

/-- **What making directories for a file changes**: they come to the tree, also those made before a
    failure. A fault names one of them. -/
structure Makes (p : Path) (tree : FileTree) (result : EStateM.Result FileFault FileTree Unit) :
    Prop where
  written : Written [] [p] tree (stateLeft result)
  fault : ∀ fault tree', result = .error fault tree' → ∃ n, fault.path = outer p.parent n

section Makes

variable (p : Path) (n : Nat) (tree : FileTree)

theorem makes_makeDirectory : Makes p tree (makeDirectory (outer p.parent n) tree) := by
  have hfails : ∀ e : FileError, Makes p tree (.error ⟨e, outer p.parent n⟩ tree) := by
    intro e
    refine ⟨written_refl _ _, fun fault tree' h => ?_⟩
    cases h
    exact ⟨n, rfl⟩
  cases hloc : tree.locate (outer p.parent n) with
  | error e =>
    have hmade : makeDirectory (outer p.parent n) tree = .error ⟨e, outer p.parent n⟩ tree := by
      simp only [makeDirectory, hloc]
    rw [hmade]
    exact hfails e
  | ok loc =>
    cases hfind : tree.find? loc with
    | some e =>
      have hmade : makeDirectory (outer p.parent n) tree =
          .error ⟨.alreadyThere, outer p.parent n⟩ tree := by
        simp only [makeDirectory, hloc, hfind]
      rw [hmade]
      exact hfails .alreadyThere
    | none =>
      have hmade : makeDirectory (outer p.parent n) tree =
          place (outer p.parent n) loc .directory tree := by
        simp only [makeDirectory, hloc, hfind]
      rw [hmade]
      rcases place_cases (outer p.parent n) loc .directory tree with
        ⟨name, up, tree', rfl, hinsert, hplace⟩ | hplace
      · rw [hplace]
        refine ⟨written_of_insert?_directory hloc hfind hinsert, fun fault tree'' h => ?_⟩
        cases h
      · rw [hplace]
        exact hfails .isADirectory

theorem makes_ensureDirectory : Makes p tree (ensureDirectory (outer p.parent n) tree) := by
  have hmakes := makes_makeDirectory p n tree
  unfold ensureDirectory
  cases hmade : makeDirectory (outer p.parent n) tree with
  | ok u tree' =>
    rw [hmade] at hmakes
    exact hmakes
  | error fault tree' =>
    rw [hmade] at hmakes
    show Makes p tree (if _ then _ else _)
    split
    · refine ⟨hmakes.written, fun fault' tree'' h => ?_⟩
      cases h
    · exact hmakes

/-- One action after another makes directories if both do. -/
theorem Makes.trans {p : Path} {tree tree' : FileTree} (h : Written [] [p] tree tree')
    {result : EStateM.Result FileFault FileTree Unit} (h' : Makes p tree' result) :
    Makes p tree result :=
  ⟨h.trans_made h'.written, h'.fault⟩

theorem makes_makeOuter : Makes p tree (makeOuter p.parent n tree) := by
  induction n generalizing tree with
  | zero => exact makes_ensureDirectory p 0 tree
  | succ n ih =>
    have hfirst := makes_ensureDirectory p (n + 1) tree
    unfold makeOuter
    cases hensured : ensureDirectory (outer p.parent (n + 1)) tree with
    | ok u tree' =>
      rw [hensured] at hfirst
      exact hfirst
    | error fault tree' =>
      rw [hensured] at hfirst
      show Makes p tree (if _ then _ else _)
      split
      · -- the directory above comes first, and then this one again
        have habove := ih tree'
        cases houter : makeOuter p.parent n tree' with
        | ok u tree'' =>
          rw [houter] at habove
          have hboth : Written [] [p] tree tree'' := hfirst.written.trans_made habove.written
          exact (makes_ensureDirectory p (n + 1) tree'').trans hboth
        | error fault' tree'' =>
          rw [houter] at habove
          exact habove.trans hfirst.written
      · exact hfirst

/-- **The directories for a file**, with those above them. -/
theorem makes_makeDirectories : Makes p tree (makeDirectories p.parent tree) :=
  makes_makeOuter p p.parent.parts.length tree

end Makes

/-! ## 5. Files -/

section Files

variable {tree tree' : FileTree} {p : Path} {text : String}

theorem writeFile_cases (p : Path) (text : String) (tree : FileTree) :
    (∃ tree', writeFile p (Utf8.encode text.toList) tree = .ok () tree' ∧
      Written [(p, text)] [p] tree tree') ∨
    ∃ e, writeFile p (Utf8.encode text.toList) tree = .error ⟨e, p⟩ tree := by
  cases hloc : tree.locate p with
  | error e =>
    refine Or.inr ⟨e, ?_⟩
    simp only [writeFile, hloc]
  | ok loc =>
    have hwrite : writeFile p (Utf8.encode text.toList) tree =
        place p loc (.file (Utf8.encode text.toList)) tree := by
      simp only [writeFile, hloc]
    rw [hwrite]
    rcases place_cases p loc (.file (Utf8.encode text.toList)) tree with
      ⟨name, up, tree', rfl, hinsert, hplace⟩ | hplace
    · exact Or.inl ⟨tree', hplace, written_of_insert?_file hloc hinsert⟩
    · exact Or.inr ⟨.isADirectory, hplace⟩

theorem writeText_eq (p : Path) (text : String) (tree : FileTree) :
    writeText p text tree =
      match makeDirectories p.parent tree with
      | .ok _ tree' => writeFile p (Utf8.encode text.toList) tree'
      | .error fault tree' => .error fault tree' := by
  show EStateM.bind (makeDirectories p.parent) (fun _ => writeFile p _) tree = _
  unfold EStateM.bind
  cases makeDirectories p.parent tree <;> rfl

/-- **A text that is written** stands at its path, below directories that may be new. -/
theorem written_of_writeText (h : writeText p text tree = .ok () tree') :
    Written [(p, text)] [p] tree tree' := by
  have hmakes := makes_makeDirectories p tree
  rw [writeText_eq] at h
  cases hmade : makeDirectories p.parent tree with
  | error fault tree'' =>
    rw [hmade] at h
    cases h
  | ok u between =>
    rw [hmade] at h hmakes
    rcases writeFile_cases p text between with ⟨after, hwrite, hwritten⟩ | ⟨e, hwrite⟩
    · have hsame : after = tree' := by
        have h' := hwrite.symm.trans h
        cases h'
        rfl
      rw [← hsame]
      exact hmakes.written.trans_made hwritten
    · have h' := hwrite.symm.trans h
      cases h'

/-- **A text that cannot be written** leaves every file as it was. The fault names its path, or a
    directory on the way. -/
theorem written_of_writeText_error {fault : FileFault}
    (h : writeText p text tree = .error fault tree') :
    Written [] [p] tree tree' ∧ (fault.path = p ∨ ∃ n, fault.path = outer p.parent n) := by
  have hmakes := makes_makeDirectories p tree
  rw [writeText_eq] at h
  cases hmade : makeDirectories p.parent tree with
  | error fault' between =>
    rw [hmade] at h hmakes
    cases h
    exact ⟨hmakes.written, Or.inr (hmakes.fault fault tree' rfl)⟩
  | ok u between =>
    rw [hmade] at h hmakes
    rcases writeFile_cases p text between with ⟨after, hwrite, _⟩ | ⟨e, hwrite⟩
    · have h' := hwrite.symm.trans h
      cases h'
    · have h' := hwrite.symm.trans h
      cases h'
      exact ⟨hmakes.written, Or.inl rfl⟩

end Files

end FileTree

end SampleSchema
