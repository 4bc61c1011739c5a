import Mathlib.Data.List.Nodup
import SampleSchema.Proofs.Project.Writing

/-!
# When the files of a type are refused

Before anything is written, each of the three files is asked for. A question has an answer unless
its path is TOO LONG (`FileTree.isThere_cases`), and where all three have one, the refusal names
those files that are there, as they are seen from the project directory, and nothing is changed. The
main statement, `Project.write_refuses_or_replaces`, puts this beside what writing does. That a path
may be too long cannot be left out of it: then a file that is there is not what ends the attempt
(`Project.longDirectory_unrefused`).
-/

namespace SampleSchema

/-! ## 1. Paths below a directory -/

/-- **Directories below the project directory**, wherever that is. -/
structure OutputSettings.IsRelative (s : OutputSettings) : Prop where
  models : s.models.root = .relative
  typedefs : s.typedefs.root = .relative
  resolvers : s.resolvers.root = .relative

/-! ## 2. Questions -/

namespace FileTree

/-- **A path that is too long**: as a whole, or in one of its names. -/
def IsLong (p : Path) : Prop :=
  maxPathBytes < p.text.utf8ByteSize ∨ ∃ part ∈ p.parts, maxNameBytes < part.utf8ByteSize

theorem exists_long_of_foldlM {tree : FileTree} {parts : List String} {loc : Location}
    (h : parts.foldlM tree.step loc = .error .nameTooLong) :
    ∃ part ∈ parts, maxNameBytes < part.utf8ByteSize := by
  induction parts generalizing loc with
  | nil => cases h
  | cons part parts ih =>
    rw [List.foldlM_cons] at h
    cases hstep : tree.step loc part with
    | ok next =>
      rw [hstep] at h
      obtain ⟨other, hmem, hlong⟩ := ih h
      exact ⟨other, List.mem_cons_of_mem _ hmem, hlong⟩
    | error e =>
      rw [hstep] at h
      cases h
      unfold step at hstep
      split at hstep
      · cases hstep
      · cases hstep
      · split at hstep
        · cases hstep
        · split at hstep
          · rename_i hlong
            exact ⟨part, List.mem_cons_self, hlong⟩
          · cases hstep

theorem isLong_of_locate {tree : FileTree} {p : Path} (h : tree.locate p = .error .nameTooLong) :
    IsLong p := by
  unfold locate at h
  split at h
  · cases h
  · split at h
    · rename_i hlong
      exact Or.inl hlong
    · exact Or.inr (exists_long_of_foldlM h)

/-- **Only a path that is too long** is not answered for. -/
theorem isThere_cases (tree : FileTree) (p : Path) :
    (∃ b, tree.isThere p = .ok b) ∨ (tree.isThere p = .error ⟨.nameTooLong, p⟩ ∧ IsLong p) := by
  unfold isThere ask
  cases hentry : tree.entryAt p with
  | ok e => exact Or.inl ⟨true, rfl⟩
  | error e =>
    by_cases he : e = .nameTooLong
    · subst he
      have hlocate : tree.locate p = .error .nameTooLong := by
        unfold entryAt at hentry
        cases hloc : tree.locate p with
        | error e =>
          rw [hloc] at hentry
          cases hentry
          rfl
        | ok loc =>
          rw [hloc] at hentry
          cases hfind : tree.find? loc <;> simp [hfind] at hentry
      exact Or.inr ⟨rfl, isLong_of_locate hlocate⟩
    · refine Or.inl ⟨false, ?_⟩
      cases e <;> first | rfl | exact absurd rfl he

/-- A path whose first name is too long is not answered for, whatever there is. -/
theorem isThere_of_long_first {tree : FileTree} {p : Path} {part : String} {rest : List String}
    (hparts : p.parts = part :: rest) (hlong : maxNameBytes < part.utf8ByteSize)
    (hnull : '\x00' ∉ p.text.toList) : tree.isThere p = .error ⟨.nameTooLong, p⟩ := by
  have hstart : tree.find? (tree.start p) = some .directory := by
    unfold start
    split
    · exact tree.isDirectory_here
    · rfl
  have hdots : part ≠ ".." := by
    rintro rfl
    exact absurd hlong (by decide)
  have hstep : tree.step (tree.start p) part = .error .nameTooLong := by
    unfold step
    rw [hstart]
    dsimp only
    rw [if_neg hdots, if_pos hlong]
  have hlocate : tree.locate p = .error .nameTooLong := by
    unfold locate
    rw [if_neg (by simpa using hnull)]
    split
    · rfl
    · rw [hparts, List.foldlM_cons, hstep]
      rfl
  unfold isThere ask entryAt
  rw [hlocate]

/-- Is the answer, where there is one, that something stands at a path? -/
def stands (tree : FileTree) (p : Path) : Bool :=
  match tree.isThere p with
  | .ok here => here
  | .error _ => false

theorem stands_eq_true_iff {tree : FileTree} {p : Path} :
    tree.stands p = true ↔ tree.isThere p = .ok true := by
  unfold stands
  cases tree.isThere p with
  | ok here => exact ⟨fun h => congrArg Except.ok h, fun h => Except.ok.inj h⟩
  | error fault => simp

end FileTree

namespace Project

open FileTree

/-! ## 3. Files that are there -/

/-- Where every question has an answer, the paths are found at which something stands. -/
theorem present_eq_filter {tree : FileTree} {paths : List Path}
    (h : ∀ p ∈ paths, ∃ b, tree.isThere p = .ok b) :
    present tree paths = .ok (paths.filter tree.stands) := by
  induction paths with
  | nil => rfl
  | cons p rest ih =>
    obtain ⟨b, hb⟩ := h p List.mem_cons_self
    have hstands : tree.stands p = b := by
      unfold stands
      rw [hb]
    unfold present
    rw [hb, ih fun q hq => h q (List.mem_cons_of_mem _ hq), List.filter_cons, hstands]

/-- Where a question has none, the first such path is the fault. -/
theorem present_of_isLong {tree : FileTree} {paths : List Path} {p : Path} (hp : p ∈ paths)
    (h : ∀ b, tree.isThere p ≠ .ok b) :
    ∃ q ∈ paths, IsLong q ∧ present tree paths = .error ⟨.nameTooLong, q⟩ := by
  induction paths with
  | nil => cases hp
  | cons q rest ih =>
    unfold present
    rcases isThere_cases tree q with ⟨b, hb⟩ | ⟨hlong, hq⟩
    · have hrest : p ∈ rest := by
        rcases List.mem_cons.mp hp with rfl | hp
        · exact absurd hb (h b)
        · exact hp
      obtain ⟨r, hr, hrlong, hpresent⟩ := ih hrest
      refine ⟨r, List.mem_cons_of_mem _ hr, hrlong, ?_⟩
      rw [hb, hpresent]
    · refine ⟨q, List.mem_cons_self, hq, ?_⟩
      rw [hlong]

theorem seenFrom_join (root : Path) {near : List Path} (h : ∀ p ∈ near, p.root = .relative) :
    seenFrom root (near.map root.join) = .ok near := by
  induction near with
  | nil => rfl
  | cons p rest ih =>
    have hp := root.relativeTo?_join (h p List.mem_cons_self)
    have hrest := ih fun q hq => h q (List.mem_cons_of_mem _ hq)
    rw [List.map_cons]
    unfold seenFrom
    rw [hp, hrest]

/-! ## 4. The files of a type -/

section Targets

variable {project : Project} {g : Generation} (hname : typeNameFault? g.typeName = none)
include hname

/-- The names of the three files. -/
theorem isPathPart_names : IsPathPart (g.typeName ++ ".js") ∧ IsPathPart (g.typeName ++ ".graphql") ∧
    IsPathPart (g.typeName ++ "Resolver.js") :=
  ⟨(isPathPart_file hname (by decide)).1, (isPathPart_file hname (by decide)).1,
    (isPathPart_file hname (by decide)).1⟩

/-- **Each file lies in its directory.** -/
theorem map_parent_targets : (project.targets g.typeName).all.map (·.parent) =
    [project.root.join project.output.models, project.root.join project.output.typedefs,
      project.root.join project.output.resolvers] := by
  obtain ⟨hmodel, htypedefs, hresolvers⟩ := isPathPart_names hname
  simp only [Targets.all, targets, List.map_cons, List.map_nil, Path.parent_child _ hmodel,
    Path.parent_child _ htypedefs, Path.parent_child _ hresolvers]

/-- **The three files differ**, even where their directories do not. -/
theorem nodup_targets : (project.targets g.typeName).all.Nodup := by
  obtain ⟨hmodel, htypedefs, hresolvers⟩ := isPathPart_names hname
  have hnames : (project.targets g.typeName).all.map (·.name?) =
      [".js", ".graphql", "Resolver.js"].map fun ending => some (g.typeName ++ ending) := by
    simp only [Targets.all, targets, List.map_cons, List.map_nil, Path.name?_child _ hmodel,
      Path.name?_child _ htypedefs, Path.name?_child _ hresolvers]
  refine List.Nodup.of_map (·.name?) ?_
  rw [hnames]
  exact List.Nodup.map (fun _ _ h => (String.append_right_inj g.typeName).mp (Option.some.inj h))
    (by decide)

/-- The files as they are seen from the project directory. -/
theorem exists_near (hrelative : project.output.IsRelative) :
    ∃ near : List Path, (∀ p ∈ near, p.root = .relative) ∧
      near.map project.root.join = (project.targets g.typeName).all := by
  obtain ⟨hmodel, htypedefs, hresolvers⟩ := isPathPart_names hname
  refine ⟨[project.output.models.child (g.typeName ++ ".js"),
    project.output.typedefs.child (g.typeName ++ ".graphql"),
    project.output.resolvers.child (g.typeName ++ "Resolver.js")], ?_, ?_⟩
  · simp only [List.forall_mem_cons, List.not_mem_nil, false_implies, implies_true, and_true,
      Path.root_child _ hmodel, Path.root_child _ htypedefs, Path.root_child _ hresolvers]
    exact ⟨hrelative.models, hrelative.typedefs, hrelative.resolvers⟩
  · simp only [List.map_cons, List.map_nil, Path.join_child _ hrelative.models hmodel,
      Path.join_child _ hrelative.typedefs htypedefs,
      Path.join_child _ hrelative.resolvers hresolvers]
    rfl

end Targets

/-- **Files that are there are refused by their names**, as they are seen from the project
    directory. -/
theorem obstacle?_of_there {project : Project} {g : Generation} {tree : FileTree}
    (hname : typeNameFault? g.typeName = none) (hrelative : project.output.IsRelative)
    (hask : ∀ p ∈ (project.targets g.typeName).all, ∃ b, tree.isThere p = .ok b)
    (hthere : ∃ p ∈ (project.targets g.typeName).all, tree.isThere p = .ok true) :
    ∃ near : List Path, (∀ p ∈ near, p.root = .relative) ∧
      near.map project.root.join = (project.targets g.typeName).all.filter tree.stands ∧
      project.obstacle? tree g.typeName false = some (.alreadyThere g.typeName near) := by
  obtain ⟨near, hnear, hall⟩ := exists_near hname hrelative
  have hexisting : project.existing tree g.typeName =
      .ok ((near.filter fun p => tree.stands (project.root.join p)).map project.root.join) := by
    unfold existing
    rw [present_eq_filter hask, ← hall, List.filter_map]
    rfl
  have hnear' : ∀ p ∈ near.filter fun p => tree.stands (project.root.join p), p.root = .relative :=
    fun p hp => hnear p ((List.mem_filter.mp hp).1)
  refine ⟨near.filter fun p => tree.stands (project.root.join p), hnear', ?_, ?_⟩
  · rw [← hall, List.filter_map]
    rfl
  · have hseen := seenFrom_join project.root hnear'
    have hne : (near.filter fun p => tree.stands (project.root.join p)) ≠ [] := by
      obtain ⟨p, hp, hstands⟩ := hthere
      rw [← hall] at hp
      obtain ⟨q, hq, rfl⟩ := List.mem_map.mp hp
      exact List.ne_nil_of_mem (List.mem_filter.mpr ⟨hq, stands_eq_true_iff.mpr hstands⟩)
    unfold obstacle?
    rw [hexisting]
    obtain ⟨p, more, hcons⟩ := List.exists_cons_of_ne_nil hne
    rw [hcons] at hseen ⊢
    rw [List.map_cons] at hseen ⊢
    dsimp only
    rw [if_neg Bool.false_ne_true, hseen]

/-- An obstacle ends an attempt, and nothing is changed. -/
theorem write_of_obstacle? {project : Project} {g : Generation} {force : Bool} {tree : FileTree}
    {fault : WriteFault} (h : project.obstacle? tree g.typeName force = some fault) :
    project.write g force tree = .error fault tree := by
  rw [write_eq, h]

/-- **What becomes of an attempt to write the files of a type.** They are three different files,
    each in its directory. If one of their paths is too long to be asked for, that is the fault. If
    all can be asked for and one is there, the attempt is refused with the names of those that are,
    unless they are to be replaced; nothing is changed in either case. An attempt that succeeds
    leaves the three texts, every other file as it was, and new directories only on the way. -/
theorem write_refuses_or_replaces {project : Project} {g : Generation} (force : Bool)
    (tree : FileTree) (hname : typeNameFault? g.typeName = none)
    (hrelative : project.output.IsRelative) :
    let targets := project.targets g.typeName
    (targets.all.Nodup ∧ targets.all.map (·.parent) =
      [project.root.join project.output.models, project.root.join project.output.typedefs,
        project.root.join project.output.resolvers]) ∧
    ((∃ p ∈ targets.all, ∀ b, tree.isThere p ≠ .ok b) → ∃ p ∈ targets.all, IsLong p ∧
      project.write g force tree = .error (.file ⟨.nameTooLong, p⟩) tree) ∧
    ((∀ p ∈ targets.all, ∃ b, tree.isThere p = .ok b) →
      (∃ p ∈ targets.all, tree.isThere p = .ok true) → force = false →
        ∃ near : List Path, (∀ p ∈ near, p.root = .relative) ∧
          near.map project.root.join = targets.all.filter tree.stands ∧
          project.write g force tree = .error (.alreadyThere g.typeName near) tree) ∧
    ∀ files tree', project.write g force tree = .ok files tree' →
      files = targets.all ∧
      (force = true ∨ ∀ p ∈ targets.all, tree.isThere p = .ok false) ∧
      tree'.entryAt targets.model =
        .ok (.file (Utf8.encode (modelModule g.typeName g.storage).toList)) ∧
      tree'.entryAt targets.typedefs = .ok (.file (Utf8.encode g.api.toList)) ∧
      tree'.entryAt targets.resolvers = .ok (.file (Utf8.encode g.resolvers.toList)) ∧
      (∀ loc bytes, (∀ p ∈ targets.all, tree'.locate p ≠ .ok loc) →
        (tree'.find? loc = some (.file bytes) ↔ tree.find? loc = some (.file bytes))) ∧
      (∀ loc, tree.find? loc = some .directory → tree'.find? loc = some .directory) ∧
      ∀ loc, tree'.find? loc = some .directory → tree.find? loc = some .directory ∨
        ∃ p ∈ targets.all, ∃ n, tree'.locate (outer p.parent n) = .ok loc := by
  intro targets
  refine ⟨⟨nodup_targets hname, map_parent_targets hname⟩, ?_, ?_, ?_⟩
  · rintro ⟨p, hp, hnone⟩
    obtain ⟨q, hq, hlong, hpresent⟩ := present_of_isLong hp hnone
    refine ⟨q, hq, hlong, write_of_obstacle? ?_⟩
    unfold obstacle? existing
    rw [hpresent]
  · rintro hask hthere rfl
    obtain ⟨near, hnear, hall, hobstacle⟩ := obstacle?_of_there hname hrelative hask hthere
    exact ⟨near, hnear, hall, write_of_obstacle? hobstacle⟩
  · intro files tree' h
    obtain ⟨hclear, hfiles, hwritten⟩ := written_of_write hname h
    have hpaths : ∀ loc, (∀ p ∈ targets.all, tree'.locate p ≠ .ok loc) →
        ∀ t ∈ project.contents g, tree'.locate t.1 ≠ .ok loc :=
      fun loc hloc t ht => hloc t.1 (List.mem_map_of_mem ht)
    have hholds : ∀ p text, (p, text) ∈ project.contents g →
        tree'.entryAt p = .ok (.file (Utf8.encode text.toList)) :=
      fun p text ht => hwritten.holds (p, text) ht
    refine ⟨hfiles, isThere_of_obstacle? hclear, hholds targets.model _ List.mem_cons_self,
      hholds targets.typedefs _ (List.mem_cons_of_mem _ List.mem_cons_self),
      hholds targets.resolvers _ (List.mem_cons_of_mem _ (List.mem_cons_of_mem _
        List.mem_cons_self)), ?_, hwritten.directories, ?_⟩
    · exact fun loc bytes hloc => hwritten.find?_file_iff (hpaths loc hloc) bytes
    · intro loc hdirectory
      by_cases hfile : ∃ t ∈ project.contents g, tree'.locate t.1 = .ok loc
      · -- where a text was written there is no directory
        obtain ⟨t, ht, hloc⟩ := hfile
        obtain ⟨loc', hloc', hfind⟩ := entryAt_eq_ok_iff.mp (hwritten.holds t ht)
        rw [hloc] at hloc'
        cases hloc'
        rw [hdirectory] at hfind
        cases hfind
      · rcases hwritten.elsewhere loc fun t ht hloc => hfile ⟨t, ht, hloc⟩ with hsame | ⟨_, _, hway⟩
        · exact Or.inl (hsame ▸ hdirectory)
        · exact Or.inr hway

/-- A tree in which the model module of orders stands. -/
def orderModuleTree : FileTree :=
  (((FileTree.empty.insert? "src" [] .directory).bind
    fun tree => tree.insert? "models" ["src"] .directory).bind
    fun tree => tree.insert? "Order.js" ["models", "src"] (.file [])).getD .empty

theorem stands_orderModuleTree : (orderProject.targets "Order").all.filter orderModuleTree.stands =
    [(orderProject.targets "Order").model] := by decide +kernel

theorem isThere_orderModuleTree :
    orderModuleTree.isThere (orderProject.targets "Order").model = .ok true := by
  have hmem := stands_orderModuleTree ▸ List.mem_singleton_self (orderProject.targets "Order").model
  exact stands_eq_true_iff.mp (List.mem_filter.mp hmem).2

/-- The model module of orders stands in the way of writing them. -/
theorem write_refuses_or_replaces_orderModuleTree :
    typeNameFault? orderTexts.typeName = none ∧ orderProject.output.IsRelative ∧
    ∃ near : List Path, near.map orderProject.root.join = [(orderProject.targets "Order").model] ∧
      orderProject.write orderTexts false orderModuleTree =
        .error (.alreadyThere "Order" near) orderModuleTree := by
  have hname : typeNameFault? orderTexts.typeName = none := by decide
  have hrelative : orderProject.output.IsRelative := ⟨by decide, by decide, by decide⟩
  have hshort : ∀ p ∈ (orderProject.targets "Order").all, ¬ IsLong p := by
    unfold IsLong
    decide +kernel
  have hask : ∀ p ∈ (orderProject.targets "Order").all, ∃ b, orderModuleTree.isThere p = .ok b :=
    fun p hp => (isThere_cases orderModuleTree p).resolve_right fun h => hshort p hp h.2
  have hthere : ∃ p ∈ (orderProject.targets "Order").all, orderModuleTree.isThere p = .ok true :=
    ⟨_, List.mem_cons_self, isThere_orderModuleTree⟩
  obtain ⟨_, _, hrefused, _⟩ :=
    write_refuses_or_replaces false orderModuleTree hname hrelative
  obtain ⟨near, _, hall, hwrite⟩ := hrefused hask hthere rfl
  exact ⟨hname, hrelative, near, hall.trans stands_orderModuleTree, hwrite⟩

theorem isPathPart_replicate (n : Nat) : IsPathPart (String.ofList (List.replicate (n + 1) 'd')) := by
  refine ⟨fun h => ?_, fun h => ?_, fun h => ?_⟩
  · have hlist := congrArg String.toList h
    rw [String.toList_ofList] at hlist
    cases hlist
  · have hlist := congrArg String.toList h
    rw [String.toList_ofList] at hlist
    cases hlist
  · rw [String.toList_ofList] at h
    cases List.eq_of_mem_replicate h

/-- A directory with too long a name. -/
def longDirectory : Path where
  root := .relative
  parts := [String.ofList (List.replicate 256 'd')]
  isPathPart _ h := List.mem_singleton.mp h ▸ isPathPart_replicate 255

/-- The working directory as a project whose API schemas go to that directory. -/
def longDirectoryProject : Project where
  root := .ofText "."
  output := { typedefs := longDirectory }

/-- A question without an answer leaves those after it unasked. -/
theorem existing_of_unanswered {project : Project} {tree : FileTree} {typeName : String} {b : Bool}
    {fault : FileFault} (hmodel : tree.isThere (project.targets typeName).model = .ok b)
    (htypedefs : tree.isThere (project.targets typeName).typedefs = .error fault) :
    project.existing tree typeName = .error fault := by
  simp only [existing, Targets.all, present, hmodel, htypedefs]

theorem no_null_of_long {p : Path} {n : Nat} (hroot : p.root = .relative)
    (hparts : p.parts = [String.ofList (List.replicate n 'd'), "Order.graphql"]) :
    '\x00' ∉ p.text.toList := by
  have htext : p.text = "/".intercalate [String.ofList (List.replicate n 'd'), "Order.graphql"] := by
    unfold Path.text
    rw [hroot, hparts, if_neg fun h => List.cons_ne_nil _ _ h.2]
    exact String.empty_append
  have hnull : '\x00' ∉ List.replicate n 'd' := fun h => absurd (List.eq_of_mem_replicate h) (by decide)
  rw [htext, String.toList_intercalate]
  simp [List.intercalate, hnull]

/-- **A file that is there is not always what ends an attempt**: a path that is too long ends it
    before. -/
theorem longDirectory_unrefused :
    typeNameFault? orderTexts.typeName = none ∧ longDirectoryProject.output.IsRelative ∧
    orderModuleTree.isThere (longDirectoryProject.targets "Order").model = .ok true ∧
    ¬ ∃ near, longDirectoryProject.write orderTexts false orderModuleTree =
      .error (.alreadyThere "Order" near) orderModuleTree := by
  have hmodel : orderModuleTree.isThere (longDirectoryProject.targets "Order").model = .ok true := by
    have hthere := isThere_orderModuleTree
    unfold targets orderProject at hthere
    unfold targets longDirectoryProject
    exact hthere
  refine ⟨by decide, ⟨rfl, rfl, rfl⟩, hmodel, ?_⟩
  rintro ⟨near, hwrite⟩
  have hparts : (longDirectoryProject.targets "Order").typedefs.parts =
      [String.ofList (List.replicate 256 'd'), "Order.graphql"] :=
    Path.parts_child (longDirectoryProject.root.join longDirectory) (by decide)
  have hroot : (longDirectoryProject.targets "Order").typedefs.root = .relative :=
    Path.root_child (longDirectoryProject.root.join longDirectory) (by decide)
  have hlong : orderModuleTree.isThere (longDirectoryProject.targets "Order").typedefs =
      .error ⟨.nameTooLong, (longDirectoryProject.targets "Order").typedefs⟩ :=
    isThere_of_long_first hparts (by decide +kernel) (no_null_of_long hroot hparts)
  have hfault : longDirectoryProject.obstacle? orderModuleTree orderTexts.typeName false =
      some (.file ⟨.nameTooLong, (longDirectoryProject.targets "Order").typedefs⟩) := by
    unfold obstacle?
    rw [show orderTexts.typeName = "Order" from rfl, existing_of_unanswered hmodel hlong]
  rw [write_of_obstacle? hfault] at hwrite
  cases hwrite

end Project

end SampleSchema
