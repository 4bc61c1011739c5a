import Mathlib.Data.List.Forall2
import SampleSchema.Proofs.Naming
import SampleSchema.Proofs.Project.Answers

/-!
# Files in the standard directories

With the standard settings the files of a type lie in three directories below the project, each
under the type name with its own ending (`Project.IsTarget`). So a file is known by its type name
and its directory, whatever the names are (`Project.goal_ne_goal`: `UserResolver.js` may be a model
or the resolver of another type), and on the way to a file there is no other one unless the way to
the project directory passes it (`Project.goal_on_own_way`).
-/

namespace SampleSchema

namespace Project

open FileTree

/-! ## 1. The standard directories -/

/-- The project of a directory, with the standard settings. -/
def standardAt (root : Path) : Project := { root := root }

/-- Names of the standard directories below a project, and the endings of the files there. -/
def layout : List (List String × String) :=
  [(["src", "models"], ".js"), (["src", "graphql", "typeDefs"], ".graphql"),
    (["src", "graphql", "resolvers"], "Resolver.js")]

/-- **A file of a type**, in one of the standard directories. -/
structure IsTarget (project : Path) (typeName : String) (d : List String × String) (p : Path) :
    Prop where
  root : p.root = project.root
  parts : p.parts = project.parts ++ (d.1 ++ [typeName ++ d.2])

theorem isTarget_child {root dir : Path} {names : List String} {typeName ending : String}
    (hrelative : dir.root = .relative) (hparts : dir.parts = names)
    (hpart : IsPathPart (typeName ++ ending)) :
    IsTarget root typeName (names, ending) ((root.join dir).child (typeName ++ ending)) := by
  obtain ⟨hjoin, hnames⟩ := root.join_of_relative hrelative
  refine ⟨?_, ?_⟩
  · rw [Path.root_child _ hpart, hjoin]
  · rw [Path.parts_child _ hpart, hnames, hparts, List.append_assoc]

/-- **The files of a type, one in each directory.** -/
theorem forall₂_isTarget (root : Path) {typeName : String} (hname : typeNameFault? typeName = none) :
    List.Forall₂ (IsTarget root typeName) layout ((standardAt root).targets typeName).all := by
  have hpart : ∀ ending : String, '/' ∉ ending.toList → IsPathPart (typeName ++ ending) :=
    fun _ hending => (isPathPart_file hname hending).1
  let standard : OutputSettings := {}
  have hmodels : standard.models.parts = ["src", "models"] := by decide
  have htypedefs : standard.typedefs.parts = ["src", "graphql", "typeDefs"] := by decide
  have hresolvers : standard.resolvers.parts = ["src", "graphql", "resolvers"] := by decide
  refine .cons ?_ (.cons ?_ (.cons ?_ .nil))
  · exact isTarget_child rfl hmodels (hpart _ (by decide))
  · exact isTarget_child rfl htypedefs (hpart _ (by decide))
  · exact isTarget_child rfl hresolvers (hpart _ (by decide))

theorem exists_isTarget {root : Path} {typeName : String} (hname : typeNameFault? typeName = none)
    {p : Path} (hp : p ∈ ((standardAt root).targets typeName).all) :
    ∃ d ∈ layout, IsTarget root typeName d p := by
  obtain ⟨n, hn, rfl⟩ := List.mem_iff_getElem.mp hp
  have hall := forall₂_isTarget root hname
  have hlength := hall.length_eq
  exact ⟨layout[n], List.getElem_mem _, List.Forall₂.get hall (hlength ▸ hn) hn⟩

theorem exists_target (root : Path) {typeName : String} (hname : typeNameFault? typeName = none)
    {d : List String × String} (hd : d ∈ layout) :
    ∃ p ∈ ((standardAt root).targets typeName).all, IsTarget root typeName d p := by
  obtain ⟨n, hn, rfl⟩ := List.mem_iff_getElem.mp hd
  have hall := forall₂_isTarget root hname
  have hlength := hall.length_eq
  exact ⟨_, List.getElem_mem (hlength ▸ hn), List.Forall₂.get hall hn (hlength ▸ hn)⟩

/-- No directory lies in the way of a file of another one. -/
theorem not_prefix_layout : ∀ d ∈ layout, ∀ d' ∈ layout, d.1 <+: d'.1 → d'.1.length ≤ d.1.length := by
  decide

theorem eq_of_mem_layout : ∀ d ∈ layout, ∀ d' ∈ layout, d.1 = d'.1 → d = d' := by
  decide

/-! ## 2. The way to a file -/

section Way

variable {tree : FileTree} {root p q : Path} {typeName other : String} {d d' : List String × String}

theorem IsTarget.length (hp : IsTarget root typeName d p) :
    p.parts.length = root.parts.length + d.1.length + 1 := by
  rw [hp.parts]
  simp [Nat.add_assoc]

/-- Up to the project directory the way to a file is the way to the project. -/
theorem IsTarget.stop_eq (hp : IsTarget root typeName d p) {n : Nat} (hn : n ≤ root.parts.length) :
    tree.stop p n = tree.stop root n := by
  unfold stop start
  rw [hp.root, hp.parts, List.take_append_of_le_length hn]

/-- Files of the same directory are reached by the same way. -/
theorem IsTarget.stop_eq_stop (hp : IsTarget root typeName d p) (hq : IsTarget root other d q)
    {n : Nat} (hn : n < p.parts.length) : tree.stop p n = tree.stop q n := by
  have hshort : n ≤ (root.parts ++ d.1).length := by
    rw [hp.length] at hn
    rw [List.length_append]
    omega
  unfold stop start
  rw [hp.root, hq.root, hp.parts, hq.parts, ← List.append_assoc, ← List.append_assoc,
    List.take_append_of_le_length hshort, List.take_append_of_le_length hshort]

/-- From there on, names are put in front. -/
theorem IsTarget.stop_add (hp : IsTarget root typeName d p) (hd : d ∈ layout) {n : Nat}
    (hn : n ≤ d.1.length) :
    tree.stop p (root.parts.length + n) = (d.1.take n).reverse ++ tree.goal root := by
  have hdots : ∀ d ∈ layout, ".." ∉ d.1 := by decide
  have htake : p.parts.take (root.parts.length + n) = root.parts ++ d.1.take n := by
    rw [hp.parts, List.take_length_add_append, List.take_append_of_le_length hn]
  unfold stop
  rw [htake, Location.along_append, Location.along_eq_append fun hmem =>
    hdots d hd (List.take_subset _ _ hmem), goal_eq]
  unfold start
  rw [hp.root]

theorem IsTarget.goal_eq (hp : IsTarget root typeName d p) (hd : d ∈ layout)
    (hdots : typeName ++ d.2 ≠ "..") :
    tree.goal p = (typeName ++ d.2) :: (d.1.reverse ++ tree.goal root) := by
  have hlayout : ∀ d ∈ layout, ".." ∉ d.1 := by decide
  have hnames : ".." ∉ d.1 ++ [typeName ++ d.2] := by
    rw [List.mem_append, List.mem_singleton]
    rintro (hmem | heq)
    · exact hlayout d hd hmem
    · exact hdots heq.symm
  rw [FileTree.goal_eq, hp.parts, Location.along_append, Location.along_eq_append hnames,
    FileTree.goal_eq]
  unfold start
  rw [hp.root]
  simp

/-- **A file on the way to another is on its own way**: then the way to the project passes it. -/
theorem goal_on_own_way (hp : IsTarget root typeName d p) (hd : d ∈ layout)
    (hdots : typeName ++ d.2 ≠ "..") (hq : IsTarget root other d' q) (hd' : d' ∈ layout) {n : Nat}
    (hn : n < q.parts.length) (h : tree.stop q n = tree.goal p) :
    n < p.parts.length ∧ tree.stop p n = tree.goal p := by
  by_cases hshort : n ≤ root.parts.length
  · refine ⟨?_, by rw [hp.stop_eq hshort, ← hq.stop_eq hshort, h]⟩
    rw [hp.length]
    omega
  · obtain ⟨k, rfl⟩ := Nat.exists_eq_add_of_le (Nat.le_of_not_le hshort)
    have hk : k ≤ d'.1.length := by
      rw [hq.length] at hn
      omega
    rw [hq.stop_add hd' hk, hp.goal_eq hd hdots, ← List.cons_append] at h
    have hnames := List.append_cancel_right h
    have htake : d'.1.take k = d.1 ++ [typeName ++ d.2] := by
      rw [← List.reverse_inj, hnames]
      simp
    have hbegins : d.1 <+: d'.1 :=
      (List.prefix_append d.1 [typeName ++ d.2]).trans (htake ▸ List.take_prefix k d'.1)
    have hlength := congrArg List.length htake
    rw [List.length_take, List.length_append] at hlength
    have := not_prefix_layout d hd d' hd' hbegins
    simp at hlength
    omega

/-- **Files of different types lie in different places.** -/
theorem goal_ne_goal (hp : IsTarget root typeName d p) (hd : d ∈ layout)
    (hdots : typeName ++ d.2 ≠ "..") (hq : IsTarget root other d' q) (hd' : d' ∈ layout)
    (hdots' : other ++ d'.2 ≠ "..") (hne : typeName ≠ other) : tree.goal p ≠ tree.goal q := by
  intro h
  rw [hp.goal_eq hd hdots, hq.goal_eq hd' hdots'] at h
  obtain ⟨hfile, hdirs⟩ := List.cons.inj h
  have hsame := eq_of_mem_layout d hd d' hd' (List.reverse_inj.mp (List.append_cancel_right hdirs))
  subst hsame
  exact hne ((String.append_left_inj d.2).mp hfile)

end Way

end Project

end SampleSchema
