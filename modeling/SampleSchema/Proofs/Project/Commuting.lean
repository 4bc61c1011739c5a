import SampleSchema.Proofs.FileTree.Again
import SampleSchema.Proofs.Project.Layout

/-!
# Imports of different types

In the standard directories, files of one type neither block nor enable an attempt to write those of
another: where the files of one type were written, the attempt for the other comes to what it would
have come to before, and both orders make the same tree (`Project.imports_commute`). What the
directories that were made could change is the answer to whether a file is there, and only for a
project directory that is reached through a missing one: behind `..` the file system does not look
before that directory is there. So the answer is the same if the project directory is STEADY
(`FileTree.Steady`) or files are to be replaced anyhow; otherwise it is not
(`Project.unsteady_import_refused`).
-/

namespace SampleSchema

/-! ## 1. Steady paths -/

namespace Path

theorem mem_intercalate_iff {separator : List Char} {c : Char} (hc : c ∉ separator)
    (pieces : List (List Char)) :
    c ∈ separator.intercalate pieces ↔ ∃ piece ∈ pieces, c ∈ piece := by
  induction pieces with
  | nil => simp
  | cons piece rest ih =>
    cases rest with
    | nil => simp
    | cons next more =>
      rw [List.intercalate_cons_cons, List.mem_append, List.mem_append, ih]
      simp [hc]

/-- A path holds a null character if one of its names does. -/
theorem null_mem_text_iff (p : Path) :
    '\x00' ∈ p.text.toList ↔ ∃ part ∈ p.parts, '\x00' ∈ part.toList := by
  unfold text
  split
  · rename_i hnone
    rw [hnone.2]
    simp
  · have hroot : '\x00' ∉ p.root.text.toList := by
      cases p.root <;> decide
    have hslash : '\x00' ∉ "/".toList := by decide
    rw [String.toList_append, List.mem_append, String.toList_intercalate,
      mem_intercalate_iff hslash]
    simp [hroot]

end Path

theorem exists_ok_of_answer {ε σ α : Type} {r : EStateM.Result ε σ α} {a : α} (h : answer r = .ok a) :
    ∃ s, r = .ok a s := by
  cases r with
  | ok b s =>
    cases h
    exact ⟨s, rfl⟩
  | error e s => cases h

namespace FileTree

/-- **A path that looks before it turns**: what stands before each `..` of it is a directory. -/
def Steady (tree : FileTree) (p : Path) : Prop :=
  ∀ n, p.parts[n]? = some ".." → tree.entryAt (outer p n) = .ok .directory

/-- A path without `..` is steady. -/
theorem steady_of_not_mem {p : Path} (h : ".." ∉ p.parts) (tree : FileTree) : tree.Steady p :=
  fun _ hdots => absurd (List.mem_of_getElem? hdots) h

/-- The path of a directory is steady. -/
theorem steady_of_directory {tree : FileTree} {p : Path} (h : tree.entryAt p = .ok .directory) :
    tree.Steady p := by
  intro n hdots
  obtain ⟨loc, hloc, _⟩ := entryAt_eq_ok_iff.mp h
  exact entryAt_outer_of_locate (List.getElem?_eq_some_iff.mp hdots).1 hloc

/-- At a stop of a steady path there is a directory, or its goal lies straight above. -/
theorem Steady.stop_cases {tree : FileTree} {p : Path} (h : tree.Steady p) (n : Nat) :
    tree.find? (tree.stop p n) = some .directory ∨
      tree.goal p = (p.parts.drop n).reverse ++ tree.stop p n := by
  by_cases hdots : ".." ∈ p.parts.drop n
  · refine Or.inl ?_
    obtain ⟨k, hk⟩ := List.mem_iff_getElem?.mp hdots
    rw [List.getElem?_drop] at hk
    have hlength : n + k < p.parts.length := (List.getElem?_eq_some_iff.mp hk).1
    obtain ⟨_, hways, hgoal⟩ := entryAt_eq_ok_iff_goal.mp (h (n + k) hk)
    rw [goal_outer tree p (Nat.le_of_lt hlength)] at hgoal
    rcases Nat.eq_zero_or_pos k with rfl | hpos
    · exact hgoal
    · have hstop := hways n (by
        rw [parts_outer, List.length_take_of_le (Nat.le_of_lt hlength)]
        omega)
      rwa [stop_outer tree p (Nat.le_add_right n k)] at hstop
  · refine Or.inr ?_
    unfold stop
    rw [← Location.along_eq_append hdots, ← Location.along_append, List.take_append_drop, goal_eq]

/-- A steady path that passes its own goal ends at a directory. -/
theorem Steady.find?_goal {tree : FileTree} {p : Path} (h : tree.Steady p) {n : Nat}
    (hn : n < p.parts.length) (hself : tree.stop p n = tree.goal p) :
    tree.find? (tree.goal p) = some .directory := by
  rcases h.stop_cases n with hdirectory | habove
  · rwa [hself] at hdirectory
  · -- no location lies above itself
    have hlength := congrArg List.length habove
    rw [hself, List.length_append, List.length_reverse, List.length_drop] at hlength
    omega

/-- **Where something stands at the goal of a steady path**, there is a way to it. -/
theorem Steady.entryAt {tree : FileTree} {p : Path} (h : tree.Steady p) (hfits : p.Fits) {e : Entry}
    (hfind : tree.find? (tree.goal p) = some e) : tree.entryAt p = .ok e := by
  refine entryAt_eq_ok_iff_goal.mpr ⟨hfits, fun n hn => ?_, hfind⟩
  rcases h.stop_cases n with hdirectory | habove
  · exact hdirectory
  · have hne : (p.parts.drop n).reverse ≠ [] := by
      rw [ne_eq, List.reverse_eq_nil_iff, List.drop_eq_nil_iff]
      omega
    refine find?_of_above hne ?_
    rw [← habove, hfind]
    simp

/-- A path that fits is answered for: something is there exactly if it leads to an entry. -/
theorem isThere_of_fits {p : Path} (hfits : p.Fits) (tree : FileTree) :
    ∃ b, tree.isThere p = .ok b ∧ (b = true ↔ ∃ e, tree.entryAt p = .ok e) := by
  have hshort : ¬ IsLong p := by
    rintro (hlong | ⟨part, hpart, hlong⟩)
    · exact absurd hfits.text.2 (Nat.not_le.mpr hlong)
    · exact absurd (hfits.names part hpart) (Nat.not_le.mpr hlong)
  rcases isThere_cases tree p with ⟨b, hb⟩ | ⟨_, hlong⟩
  · refine ⟨b, hb, ?_⟩
    unfold isThere ask at hb
    cases hentry : tree.entryAt p with
    | ok e =>
      rw [hentry] at hb
      cases hb
      simp
    | error cause =>
      rw [hentry] at hb
      cases cause <;> cases hb <;> simp
  · exact absurd hlong hshort

/-- A path that is too long as a whole is never answered for. -/
theorem isThere_of_long {p : Path} (hnull : '\x00' ∉ p.text.toList)
    (hlong : maxPathBytes < p.text.utf8ByteSize) (tree : FileTree) :
    tree.isThere p = .error ⟨.nameTooLong, p⟩ := by
  have hlocate : tree.locate p = .error .nameTooLong := by
    unfold locate
    rw [if_neg (by simpa using hnull), if_pos hlong]
  unfold isThere ask entryAt
  rw [hlocate]

end FileTree

namespace Project

open FileTree

/-! ## 2. Files of another type -/

/-- An accepted name with an ending is a name that a path may hold. -/
theorem file_fits {typeName ending : String} (hname : typeNameFault? typeName = none)
    (hending : ending.utf8ByteSize ≤ 100) (hnull : '\x00' ∉ ending.toList) :
    (typeName ++ ending).utf8ByteSize ≤ maxNameBytes ∧ '\x00' ∉ (typeName ++ ending).toList := by
  have hbytes := utf8ByteSize_le_of_accepted hname
  refine ⟨?_, ?_⟩
  · rw [String.utf8ByteSize_append]
    exact Nat.le_trans (Nat.add_le_add hbytes hending) (by decide)
  · rw [String.toList_append, List.mem_append]
    rintro (hmem | hmem)
    · have hpart := isIdentifierPart_of_mem hname hmem
      revert hpart
      decide
    · exact hnull hmem

section Files

variable {root p q : Path} {typeName other : String} {d d' : List String × String}

theorem IsTarget.file_ne_dots (hname : typeNameFault? typeName = none) (hd : d ∈ layout) :
    typeName ++ d.2 ≠ ".." := by
  have hslash : ∀ d ∈ layout, '/' ∉ d.2.toList := by decide
  exact (isPathPart_file hname (hslash d hd)).2

/-- **Where the files of one type fit, so do those of another**, unless they are too long. -/
theorem IsTarget.fits (hp : IsTarget root typeName d p) (hd : d ∈ layout)
    (hname : typeNameFault? typeName = none) (hq : IsTarget root other d' q) (hfits : q.Fits) :
    '\x00' ∉ p.text.toList ∧ (p.text.utf8ByteSize ≤ maxPathBytes → p.Fits) := by
  have hlayout : ∀ d ∈ layout, (∀ part ∈ d.1, part.utf8ByteSize ≤ maxNameBytes ∧
      '\x00' ∉ part.toList) ∧ d.2.utf8ByteSize ≤ 100 ∧ '\x00' ∉ d.2.toList := by decide
  obtain ⟨hdirs, hending, hnull⟩ := hlayout d hd
  obtain ⟨hbytes, hnull'⟩ := file_fits hname hending hnull
  have hroot : ∀ part ∈ root.parts, part.utf8ByteSize ≤ maxNameBytes ∧ '\x00' ∉ part.toList := by
    intro part hpart
    have hmem : part ∈ q.parts := by
      rw [hq.parts]
      exact List.mem_append_left _ hpart
    exact ⟨hfits.names part hmem, fun h =>
      hfits.text.1 ((Path.null_mem_text_iff q).mpr ⟨part, hmem, h⟩)⟩
  have hparts : ∀ part ∈ p.parts, part.utf8ByteSize ≤ maxNameBytes ∧ '\x00' ∉ part.toList := by
    intro part hpart
    rw [hp.parts] at hpart
    rcases List.mem_append.mp hpart with hpart | hpart
    · exact hroot part hpart
    · rcases List.mem_append.mp hpart with hpart | hpart
      · exact hdirs part hpart
      · rw [List.mem_singleton.mp hpart]
        exact ⟨hbytes, hnull'⟩
  have hfree : '\x00' ∉ p.text.toList := by
    rw [Path.null_mem_text_iff]
    rintro ⟨part, hpart, h⟩
    exact (hparts part hpart).2 h
  exact ⟨hfree, fun hshort => ⟨⟨hfree, hshort⟩, fun part hpart => (hparts part hpart).1⟩⟩

/-- The files of a type are reached by a steady way if the project directory is. -/
theorem IsTarget.steady (hp : IsTarget root typeName d p) (hd : d ∈ layout)
    (hname : typeNameFault? typeName = none) {tree : FileTree} (h : tree.Steady root) :
    tree.Steady p := by
  intro n hdots
  have hlayout : ∀ d ∈ layout, ".." ∉ d.1 := by decide
  have hn : n < root.parts.length := by
    by_contra hlong
    rw [hp.parts, List.getElem?_append_right (Nat.le_of_not_lt hlong)] at hdots
    rcases List.mem_append.mp (List.mem_of_getElem? hdots) with hmem | hmem
    · exact hlayout d hd hmem
    · exact IsTarget.file_ne_dots hname hd (List.mem_singleton.mp hmem).symm
  have houter : outer p n = outer root n := by
    refine Path.eq_of_parts hp.root ?_
    rw [parts_outer, parts_outer, hp.parts, List.take_append_of_le_length (Nat.le_of_lt hn)]
  rw [houter]
  rw [hp.parts, List.getElem?_append_left hn] at hdots
  exact h n hdots

end Files

theorem targets_eq_map (project : Project) (g : Generation) :
    (project.targets g.typeName).all = (project.contents g).map (·.1) := rfl

/-- The file of a type in a directory, with its text. -/
theorem exists_content (root : Path) {g : Generation} (h : typeNameFault? g.typeName = none)
    {d : List String × String} (hd : d ∈ layout) :
    ∃ t ∈ (standardAt root).contents g, IsTarget root g.typeName d t.1 := by
  obtain ⟨q, hq, hq'⟩ := exists_target root h hd
  rw [targets_eq_map] at hq
  obtain ⟨t, ht, rfl⟩ := List.mem_map.mp hq
  exact ⟨t, ht, hq'⟩

theorem exists_isTarget_of_content {root : Path} {g : Generation}
    (h : typeNameFault? g.typeName = none) {t : Path × String}
    (ht : t ∈ (standardAt root).contents g) : ∃ d ∈ layout, IsTarget root g.typeName d t.1 :=
  exists_isTarget h (List.mem_map_of_mem (f := (·.1)) ht)

/-- A file of a type on the way to another file is on its own way. -/
theorem exists_own_stop {root : Path} {g g' : Generation} (h : typeNameFault? g.typeName = none)
    (h' : typeNameFault? g'.typeName = none) {p : Path}
    (hp : p ∈ ((standardAt root).targets g.typeName).all) (tree : FileTree) :
    ∀ t ∈ (standardAt root).contents g', ∀ n < t.1.parts.length, tree.stop t.1 n = tree.goal p →
      ∃ m < p.parts.length, tree.stop p m = tree.goal p := by
  intro t ht n hn heq
  obtain ⟨d, hd, hp'⟩ := exists_isTarget h hp
  obtain ⟨d', hd', hq⟩ := exists_isTarget_of_content h' ht
  exact ⟨n, goal_on_own_way hp' hd (IsTarget.file_ne_dots h hd) hq hd' hn heq⟩

/-- **The files of different types lie apart.** -/
theorem apart_of_ne (root : Path) {g₁ g₂ : Generation} (h₁ : typeNameFault? g₁.typeName = none)
    (h₂ : typeNameFault? g₂.typeName = none) (hne : g₁.typeName ≠ g₂.typeName) :
    ∀ s ∈ (standardAt root).contents g₁, ∀ t ∈ (standardAt root).contents g₂, Apart s.1 t.1 := by
  intro s hs t ht tree loc hloc hloc'
  obtain ⟨d, hd, hp⟩ := exists_isTarget_of_content h₁ hs
  obtain ⟨d', hd', hq⟩ := exists_isTarget_of_content h₂ ht
  have hgoal := (locate_eq_ok_iff.mp hloc).2.2
  have hgoal' := (locate_eq_ok_iff.mp hloc').2.2
  exact goal_ne_goal hp hd (IsTarget.file_ne_dots h₁ hd) hq hd' (IsTarget.file_ne_dots h₂ hd') hne
    (hgoal.symm.trans hgoal')

/-! ## 3. After the files of one type were written -/

section Imports

variable {root : Path} {g₁ g₂ : Generation} (h₁ : typeNameFault? g₁.typeName = none)
  (h₂ : typeNameFault? g₂.typeName = none) (hne : g₁.typeName ≠ g₂.typeName) {tree tree₁ : FileTree}
  (hwritten : Written ((standardAt root).contents g₁)
    (((standardAt root).contents g₁).map (·.1)) tree tree₁)
include h₁ h₂ hwritten

/-- A file of the other type fits, unless its path is too long; then no tree answers for it. -/
theorem fits_or_long {p : Path} (hp : p ∈ ((standardAt root).targets g₂.typeName).all) :
    p.Fits ∨ ∀ t : FileTree, t.isThere p = .error ⟨.nameTooLong, p⟩ := by
  obtain ⟨d, hd, hp'⟩ := exists_isTarget h₂ hp
  obtain ⟨t, ht, hq⟩ := exists_content root h₁ hd
  obtain ⟨hnull, hfits⟩ := hp'.fits hd h₂ hq (hwritten.fits ht)
  by_cases hshort : p.text.utf8ByteSize ≤ maxPathBytes
  · exact Or.inl (hfits hshort)
  · exact Or.inr (isThere_of_long hnull (Nat.lt_of_not_le hshort))

/-- No file stands on the way to a file of the other type, neither before nor after: it is the way to
    one of the files that were written. -/
theorem clear_before_and_after {p : Path} (hp : p ∈ ((standardAt root).targets g₂.typeName).all)
    {n : Nat} (hn : n < p.parts.length) (bytes : List UInt8) :
    tree.find? (tree.stop p n) ≠ some (.file bytes) ∧
      tree₁.find? (tree₁.stop p n) ≠ some (.file bytes) := by
  obtain ⟨d, hd, hp'⟩ := exists_isTarget h₂ hp
  obtain ⟨t, ht, hq⟩ := exists_content root h₁ hd
  have hn' : n < t.1.parts.length := by
    rw [hq.length, ← hp'.length]
    exact hn
  rw [stop_of_here hwritten.here, hp'.stop_eq_stop hq hn, hwritten.find?_stop ht hn']
  exact ⟨hwritten.clear ht hn' bytes, by simp⟩

/-- **The files of the other type are as ready before as they are after.** -/
theorem ready_before_and_after
    (hfits : ∀ p ∈ ((standardAt root).targets g₂.typeName).all, p.Fits) :
    Ready tree ((standardAt root).contents g₂) ∧ Ready tree₁ ((standardAt root).contents g₂) := by
  have htarget : ∀ t ∈ (standardAt root).contents g₂,
      t.1 ∈ ((standardAt root).targets g₂.typeName).all :=
    fun t ht => List.mem_map_of_mem (f := (·.1)) ht
  have hclear := fun t ht n hn bytes =>
    clear_before_and_after h₁ h₂ hwritten (htarget t ht) (n := n) hn bytes
  exact ⟨⟨fun t ht => hfits t.1 (htarget t ht), fun t ht n hn bytes => (hclear t ht n hn bytes).1,
      fun t ht => exists_own_stop h₂ h₂ (htarget t ht) tree⟩,
    ⟨fun t ht => hfits t.1 (htarget t ht), fun t ht n hn bytes => (hclear t ht n hn bytes).2,
      fun t ht => exists_own_stop h₂ h₂ (htarget t ht) tree₁⟩⟩

section Steady

variable (hsteady : tree.Steady root) {p : Path}
  (hp : p ∈ ((standardAt root).targets g₂.typeName).all)
include hne hsteady hp

/-- What stands at a file of the other type now stood there before, or a directory did, on the way
    that passes its own goal. -/
theorem exists_find?_goal {e : Entry} (h : tree₁.find? (tree₁.goal p) = some e) :
    ∃ e, tree.find? (tree.goal p) = some e := by
  obtain ⟨d, hd, hp'⟩ := exists_isTarget h₂ hp
  by_cases hstop : ∃ t ∈ (standardAt root).contents g₁, ∃ n < t.1.parts.length,
      tree.stop t.1 n = tree.goal p
  · obtain ⟨t, ht, n, hn, heq⟩ := hstop
    obtain ⟨m, hm, hown⟩ := exists_own_stop h₂ h₁ hp tree t ht n hn heq
    exact ⟨_, (hp'.steady hd h₂ hsteady).find?_goal hm hown⟩
  · refine ⟨e, ?_⟩
    rw [goal_of_here hwritten.here] at h
    rw [← h, hwritten.find?_eq ?_ fun t ht n hn heq => hstop ⟨t, ht, n, hn, heq⟩]
    intro t ht
    obtain ⟨d', hd', hq⟩ := exists_isTarget_of_content h₁ ht
    exact goal_ne_goal hq hd' (IsTarget.file_ne_dots h₁ hd') hp' hd (IsTarget.file_ne_dots h₂ hd) hne

/-- There is a way to a file of the other type exactly if there was one. -/
theorem exists_entryAt_iff (hfits : p.Fits) :
    (∃ e, tree₁.entryAt p = .ok e) ↔ ∃ e, tree.entryAt p = .ok e := by
  obtain ⟨d, hd, hp'⟩ := exists_isTarget h₂ hp
  constructor
  · rintro ⟨e, he⟩
    obtain ⟨_, _, hnow⟩ := entryAt_eq_ok_iff_goal.mp he
    obtain ⟨e', hbefore⟩ := exists_find?_goal h₁ h₂ hne hwritten hsteady hp hnow
    exact ⟨e', (hp'.steady hd h₂ hsteady).entryAt hfits hbefore⟩
  · rintro ⟨e, he⟩
    obtain ⟨_, hways, hgoal⟩ := entryAt_eq_ok_iff_goal.mp he
    obtain ⟨e', he'⟩ := hwritten.exists_find? hgoal
    refine ⟨e', entryAt_eq_ok_iff_goal.mpr ⟨hfits, fun n hn => ?_, ?_⟩⟩
    · rw [stop_of_here hwritten.here]
      exact hwritten.directories _ (hways n hn)
    · rw [goal_of_here hwritten.here, he']

/-- **Whether a file of the other type is there** is what it was, for a steady project directory. -/
theorem isThere_eq_of_steady : tree₁.isThere p = tree.isThere p := by
  rcases fits_or_long h₁ h₂ hwritten hp with hfits | hlong
  · obtain ⟨b, hb, hbiff⟩ := isThere_of_fits hfits tree
    obtain ⟨b₁, hb₁, hbiff₁⟩ := isThere_of_fits hfits tree₁
    have hsame : b₁ = b := Bool.eq_iff_iff.mpr (by
      rw [hbiff₁, hbiff, exists_entryAt_iff h₁ h₂ hne hwritten hsteady hp hfits])
    rw [hb, hb₁, hsame]
  · rw [hlong, hlong]

end Steady

include hne

/-- **The attempt for the other type comes to what it would have come to**, if files are to be
    replaced or the project directory is steady. -/
theorem answer_write_eq {force : Bool} (h : force = true ∨ tree.Steady root) :
    answer ((standardAt root).write g₂ force tree₁) =
      answer ((standardAt root).write g₂ force tree) := by
  have hobstacle : (standardAt root).obstacle? tree₁ g₂.typeName force =
      (standardAt root).obstacle? tree g₂.typeName force := by
    rcases h with rfl | hsteady
    · refine obstacle?_forced_congr fun p hp fault => ?_
      rcases fits_or_long h₁ h₂ hwritten hp with hfits | hlong
      · obtain ⟨b₁, hb₁, _⟩ := isThere_of_fits hfits tree₁
        obtain ⟨b, hb, _⟩ := isThere_of_fits hfits tree
        rw [hb, hb₁]
        exact ⟨nofun, nofun⟩
      · rw [hlong, hlong]
    · exact obstacle?_congr force fun p hp => isThere_eq_of_steady h₁ h₂ hne hwritten hsteady hp
  refine answer_write_congr hobstacle fun hnone => ?_
  have hfits : ∀ p ∈ ((standardAt root).targets g₂.typeName).all, p.Fits := by
    intro p hp
    rcases fits_or_long h₁ h₂ hwritten hp with hfits | hlong
    · exact hfits
    · obtain ⟨b, hb⟩ := exists_isThere_of_obstacle? hnone hp
      cases hb.symm.trans (hlong tree₁)
  obtain ⟨hbefore, hafter⟩ := ready_before_and_after h₁ h₂ hwritten hfits
  refine answer_writeTexts hafter hbefore fun t ht => hwritten.obstructed_iff ?_
  exact exists_own_stop h₂ h₁ (List.mem_map_of_mem (f := (·.1)) ht) tree

end Imports

/-! ## 4. What an attempt leaves -/

/-- **However writing ends**, some of the texts are written and nothing else. -/
theorem exists_done_of_writeTexts {texts : List (Path × String)}
    (hapart : texts.Pairwise fun s t => Apart s.1 t.1) (tree : FileTree) :
    ∃ done ways, done ⊆ texts ∧ Written done ways tree (stateLeft (writeTexts texts tree)) := by
  induction texts generalizing tree with
  | nil => exact ⟨[], [], List.nil_subset _, written_refl [] tree⟩
  | cons t rest ih =>
    obtain ⟨p, text⟩ := t
    obtain ⟨hfirst, hrest⟩ := List.pairwise_cons.mp hapart
    rw [writeTexts_cons]
    cases hwrite : FileTree.writeText p text tree with
    | error fault between =>
      exact ⟨[], [p], List.nil_subset _, (written_of_writeText_error hwrite).1⟩
    | ok u between =>
      obtain ⟨done, ways, hdone, hleft⟩ := ih hrest between
      exact ⟨(p, text) :: done, p :: ways, List.cons_subset_cons _ hdone,
        written_cons (written_of_writeText hwrite) hleft fun t ht => hfirst t (hdone ht)⟩

/-- So it is with an attempt, which may also end before the first text. -/
theorem exists_done_of_write {project : Project} {g : Generation}
    (hname : typeNameFault? g.typeName = none) (force : Bool) (tree : FileTree) :
    ∃ done ways, done ⊆ project.contents g ∧
      Written done ways tree (stateLeft (project.write g force tree)) := by
  have hdone := exists_done_of_writeTexts (apart_contents project hname) tree
  rcases write_cases project g force tree with
    ⟨fault, _, hwrite⟩ | ⟨_, ⟨tree', hall, hwrite⟩ | ⟨fault, tree', hall, hwrite⟩⟩
  · rw [hwrite]
    exact ⟨[], [], List.nil_subset _, written_refl [] tree⟩
  · rw [hall] at hdone
    rw [hwrite]
    exact hdone
  · rw [hall] at hdone
    rw [hwrite]
    exact hdone

/-- Texts that all stand already are written without a change. -/
theorem writeTexts_of_holds {texts : List (Path × String)} {tree : FileTree}
    (h : ∀ t ∈ texts, tree.entryAt t.1 = .ok (.file (Utf8.encode t.2.toList))) :
    writeTexts texts tree = .ok () tree := by
  induction texts with
  | nil => rfl
  | cons t rest ih =>
    obtain ⟨hfirst, hrest⟩ := List.forall_mem_cons.mp h
    rw [writeTexts_cons, writeText_of_holds hfirst]
    exact ih hrest

/-- **Texts that were tried to be written** are not written better a second time. -/
theorem writeTexts_again {texts : List (Path × String)}
    (hapart : texts.Pairwise fun s t => Apart s.1 t.1) (tree : FileTree) :
    SameEnd (writeTexts texts (stateLeft (writeTexts texts tree))) (writeTexts texts tree) := by
  induction texts generalizing tree with
  | nil => exact .ok () tree
  | cons t rest ih =>
    obtain ⟨p, text⟩ := t
    obtain ⟨hfirst, hrest⟩ := List.pairwise_cons.mp hapart
    rw [writeTexts_cons p text rest tree]
    cases hwrite : FileTree.writeText p text tree with
    | error fault between =>
      have hone := writeText_again p text tree
      rw [hwrite] at hone
      obtain ⟨fault', hfails⟩ :
          ∃ fault', FileTree.writeText p text between = .error fault' between := hone.exists_error
      show SameEnd (writeTexts _ between) (.error fault between)
      rw [writeTexts_cons, hfails]
      exact .error _ _ _
    | ok u between =>
      dsimp only
      -- the first text stands still after the others were written, or tried to be
      have hthere : (stateLeft (writeTexts rest between)).entryAt p =
          .ok (.file (Utf8.encode text.toList)) := by
        have hholds := (written_of_writeText hwrite).holds (p, text) (List.mem_singleton_self _)
        obtain ⟨done, ways, hdone, hleft⟩ := exists_done_of_writeTexts hrest between
        exact hleft.entryAt_of_apart hholds fun t ht => hfirst t (hdone ht)
      rw [writeTexts_cons, writeText_of_holds hthere]
      exact ih hrest between

/-- **Where all texts stand already**, a forced attempt succeeds and changes nothing. -/
theorem write_of_holds {project : Project} {g : Generation} {tree : FileTree}
    (h : ∀ t ∈ project.contents g, tree.entryAt t.1 = .ok (.file (Utf8.encode t.2.toList))) :
    project.write g true tree = .ok (project.targets g.typeName).all tree := by
  have hask : ∀ p ∈ (project.targets g.typeName).all, ∃ b, tree.isThere p = .ok b := by
    intro p hp
    rw [targets_eq_map] at hp
    obtain ⟨t, ht, rfl⟩ := List.mem_map.mp hp
    refine ⟨true, ?_⟩
    unfold isThere ask
    rw [h t ht]
  rw [write_eq, obstacle?_forced (present_eq_filter hask), writeTexts_of_holds h]

/-- **Where writing fails at once**, so does an attempt. -/
theorem exists_write_error {project : Project} {g : Generation} (force : Bool) {tree : FileTree}
    {fault : FileFault} (h : writeTexts (project.contents g) tree = .error fault tree) :
    ∃ fault', project.write g force tree = .error fault' tree := by
  rcases write_cases project g force tree with
    ⟨fault', _, hwrite⟩ | ⟨_, ⟨after, hall, _⟩ | ⟨fault', after, hall, hwrite⟩⟩
  · exact ⟨fault', hwrite⟩
  · cases h.symm.trans hall
  · cases h.symm.trans hall
    exact ⟨_, hwrite⟩

/-- **A forced attempt, once more**, ends as the first one did. -/
theorem write_again (project : Project) {g : Generation} (hname : typeNameFault? g.typeName = none)
    (tree : FileTree) :
    SameEnd (project.write g true (stateLeft (project.write g true tree)))
      (project.write g true tree) := by
  rcases write_cases project g true tree with
    ⟨fault, _, hwrite⟩ | ⟨_, ⟨tree', hall, hwrite⟩ | ⟨fault, tree', hall, hwrite⟩⟩
  · rw [hwrite]
    show SameEnd (project.write g true tree) _
    rw [hwrite]
    exact .error _ _ _
  · rw [hwrite]
    show SameEnd (project.write g true tree') _
    rw [write_of_holds (written_of_writeTexts (apart_contents project hname) hall).holds]
    exact .ok _ _
  · rw [hwrite]
    show SameEnd (project.write g true tree') _
    have hagain := writeTexts_again (apart_contents project hname) tree
    rw [hall] at hagain
    obtain ⟨fault', hfails⟩ :
        ∃ fault', writeTexts (project.contents g) tree' = .error fault' tree' := hagain.exists_error
    obtain ⟨fault'', hwrite'⟩ := exists_write_error true hfails
    rw [hwrite']
    exact .error _ _ _

/-! ## 5. Imports in either order -/

/-- **One type after another**: the tree holds the texts of both. -/
theorem written_both {root : Path} {g₁ g₂ : Generation} (h₁ : typeNameFault? g₁.typeName = none)
    (h₂ : typeNameFault? g₂.typeName = none) (hne : g₁.typeName ≠ g₂.typeName)
    {tree tree₁ tree₁₂ : FileTree}
    (hfirst : Written ((standardAt root).contents g₁) ((standardAt root).targets g₁.typeName).all
      tree tree₁)
    (hsecond : Written ((standardAt root).contents g₂) ((standardAt root).targets g₂.typeName).all
      tree₁ tree₁₂) :
    Written ((standardAt root).contents g₁ ++ (standardAt root).contents g₂)
      (((standardAt root).contents g₁ ++ (standardAt root).contents g₂).map (·.1)) tree tree₁₂ := by
  rw [targets_eq_map] at hfirst hsecond
  rw [List.map_append]
  exact (hfirst.widen (List.subset_append_left _ _)).trans
    (hsecond.widen (List.subset_append_right _ _)) (apart_of_ne root h₁ h₂ hne)

/-- **Imports of different types commute, and a forced import may be repeated.** For every tree: a
    forced attempt, made once more, ends as it ended and leaves the tree it left. Where one type was
    written, an attempt for another leaves its texts as they are, and is refused, fails or succeeds
    as it would have before, if it is forced or the project directory is steady. Where both were
    written, both could have been written in the other order, under the same condition on each, and
    whenever they can be, the trees hold the same. -/
theorem imports_commute (root : Path) {g₁ g₂ : Generation}
    (h₁ : typeNameFault? g₁.typeName = none) (h₂ : typeNameFault? g₂.typeName = none)
    (hne : g₁.typeName ≠ g₂.typeName) :
    let project := standardAt root
    (∀ tree, SameEnd (project.write g₁ true (stateLeft (project.write g₁ true tree)))
      (project.write g₁ true tree)) ∧
    ∀ force₁ files₁ tree tree₁, project.write g₁ force₁ tree = .ok files₁ tree₁ → ∀ force₂,
      (force₂ = true ∨ tree.Steady root →
        answer (project.write g₂ force₂ tree₁) = answer (project.write g₂ force₂ tree)) ∧
      (∀ t ∈ project.contents g₁, (stateLeft (project.write g₂ force₂ tree₁)).entryAt t.1 =
        .ok (.file (Utf8.encode t.2.toList))) ∧
      ∀ files₂ tree₁₂, project.write g₂ force₂ tree₁ = .ok files₂ tree₁₂ →
        (force₁ = true ∧ force₂ = true ∨ tree.Steady root → ∃ tree₂ tree₂₁,
          project.write g₂ force₂ tree = .ok files₂ tree₂ ∧
          project.write g₁ force₁ tree₂ = .ok files₁ tree₂₁) ∧
        ∀ files₂' files₁' tree₂ tree₂₁, project.write g₂ force₂ tree = .ok files₂' tree₂ →
          project.write g₁ force₁ tree₂ = .ok files₁' tree₂₁ → Alike tree₁₂ tree₂₁ := by
  intro project
  refine ⟨write_again project h₁, ?_⟩
  intro force₁ files₁ tree tree₁ hfirst force₂
  have hwritten := (written_of_write h₁ hfirst).2.2
  have hsame : force₂ = true ∨ tree.Steady root →
      answer (project.write g₂ force₂ tree₁) = answer (project.write g₂ force₂ tree) :=
    answer_write_eq h₁ h₂ hne hwritten
  refine ⟨hsame, fun t ht => ?_, fun files₂ tree₁₂ hsecond => ⟨fun hcond => ?_, ?_⟩⟩
  · obtain ⟨done, ways, hdone, hleft⟩ := @exists_done_of_write project g₂ h₂ force₂ tree₁
    exact hleft.entryAt_of_apart (hwritten.holds t ht) fun u hu =>
      apart_of_ne root h₁ h₂ hne t ht u (hdone hu)
  · have hbefore := hsame (hcond.imp And.right id)
    rw [hsecond] at hbefore
    obtain ⟨tree₂, hother⟩ := exists_ok_of_answer hbefore.symm
    have hwritten₂ := (written_of_write h₂ hother).2.2
    have hback : answer (project.write g₁ force₁ tree₂) = answer (project.write g₁ force₁ tree) :=
      answer_write_eq h₂ h₁ hne.symm hwritten₂ (hcond.imp And.left id)
    rw [hfirst] at hback
    obtain ⟨tree₂₁, hlast⟩ := exists_ok_of_answer hback
    exact ⟨tree₂, tree₂₁, hother, hlast⟩
  · intro files₂' files₁' tree₂ tree₂₁ hother hlast
    have hboth := written_both h₁ h₂ hne hwritten (written_of_write h₂ hsecond).2.2
    have hreversed := written_both h₂ h₁ hne.symm (written_of_write h₂ hother).2.2
      (written_of_write h₁ hlast).2.2
    refine alike_of_written hboth hreversed fun t => ?_
    rw [List.mem_append, List.mem_append, Or.comm]

/-- What is generated for users of which nothing is known. -/
def userTexts : Generation := .ofModel "User" {}

/-- Orders and users are imported in either order, and the trees hold the same. -/
theorem imports_commute_empty :
    typeNameFault? userTexts.typeName = none ∧ typeNameFault? orderTexts.typeName = none ∧
    userTexts.typeName ≠ orderTexts.typeName ∧
    ∃ files files' tree₁ tree₁₂ tree₂ tree₂₁,
      orderProject.write userTexts false .empty = .ok files tree₁ ∧
      orderProject.write orderTexts false tree₁ = .ok files' tree₁₂ ∧
      orderProject.write orderTexts false .empty = .ok files' tree₂ ∧
      orderProject.write userTexts false tree₂ = .ok files tree₂₁ ∧
      FileTree.Alike tree₁₂ tree₂₁ := by
  have hu : typeNameFault? userTexts.typeName = none := by decide
  have ho : typeNameFault? orderTexts.typeName = none := by decide
  have hne : userTexts.typeName ≠ orderTexts.typeName := by decide
  have hboth : answer (orderProject.write orderTexts false
      (stateLeft (orderProject.write userTexts false .empty))) =
        .ok (orderProject.targets "Order").all := by
    simp only [write_eq]
    decide +kernel
  have hone : answer (orderProject.write userTexts false .empty) =
      .ok (orderProject.targets "User").all := by
    rw [write_eq]
    decide +kernel
  obtain ⟨tree₁, hfirst⟩ := exists_ok_of_answer hone
  rw [hfirst] at hboth
  obtain ⟨tree₁₂, hsecond⟩ := exists_ok_of_answer hboth
  have hsteady : FileTree.empty.Steady (.ofText ".") := steady_of_not_mem (by decide) _
  obtain ⟨_, hcommute⟩ := imports_commute (.ofText ".") hu ho hne
  obtain ⟨_, _, horders⟩ := hcommute false _ .empty tree₁ hfirst false
  obtain ⟨hexists, halike⟩ := horders _ tree₁₂ hsecond
  obtain ⟨tree₂, tree₂₁, hother, hlast⟩ := hexists (Or.inr hsteady)
  exact ⟨hu, ho, hne, _, _, tree₁, tree₁₂, tree₂, tree₂₁, hfirst, hsecond, hother, hlast,
    halike _ _ tree₂ tree₂₁ hother hlast⟩

/-- The working directory, by way of a directory that is not there. -/
def unsteadyProject : Project := standardAt (.ofText "new/..")

/-- **An import of another type can reveal files**: orders are written over the module that stands,
    unasked; after users were written the same attempt is refused, because of that module. -/
theorem unsteady_import_refused :
    typeNameFault? userTexts.typeName = none ∧ typeNameFault? orderTexts.typeName = none ∧
    userTexts.typeName ≠ orderTexts.typeName ∧
    ∃ files tree₁, unsteadyProject.write userTexts false orderModuleTree = .ok files tree₁ ∧
      answer (unsteadyProject.write orderTexts false orderModuleTree) =
        .ok (unsteadyProject.targets "Order").all ∧
      answer (unsteadyProject.write orderTexts false tree₁) =
        .error (.alreadyThere "Order" [.ofText "src/models/Order.js"]) := by
  have hfirst : answer (unsteadyProject.write userTexts false orderModuleTree) =
      .ok (unsteadyProject.targets "User").all := by
    rw [write_eq]
    decide +kernel
  have hsecond : answer (unsteadyProject.write orderTexts false
      (stateLeft (unsteadyProject.write userTexts false orderModuleTree))) =
        .error (.alreadyThere "Order" [.ofText "src/models/Order.js"]) := by
    simp only [write_eq]
    decide +kernel
  have halone : answer (unsteadyProject.write orderTexts false orderModuleTree) =
      .ok (unsteadyProject.targets "Order").all := by
    rw [write_eq]
    decide +kernel
  obtain ⟨tree₁, hwrite⟩ := exists_ok_of_answer hfirst
  rw [hwrite] at hsecond
  exact ⟨by decide, by decide, by decide, _, tree₁, hwrite, halone, hsecond⟩

end Project

end SampleSchema
