import SampleSchema.Proofs.FileTree.Written

/-!
# The stops on the way of a path

A path is walked name by name. Its STOPS are the locations behind its first names, whatever there is
in the tree: `FileTree.stop p n` behind the first `n` of them. A path leads somewhere exactly if it
fits and there are directories at all its stops but the last one (`FileTree.locate_eq_ok_iff`), and
so trees before and after writing differ at the stops of what was written and nowhere else
(`FileTree.Written.find?_eq`). Two trees that hold the same are `Alike`.
-/

namespace SampleSchema

/-! ## 1. Walking without a tree -/

namespace Location

/-- One name further. -/
def next (loc : Location) (part : String) : Location :=
  if part = ".." then loc.tail else part :: loc

/-- Some names further. -/
def along (loc : Location) (parts : List String) : Location := parts.foldl next loc

theorem along_append (loc : Location) (parts more : List String) :
    loc.along (parts ++ more) = (loc.along parts).along more :=
  List.foldl_append

/-- Names that do not lead up are put in front, the last one first. -/
theorem along_eq_append {parts : List String} (h : ".." ∉ parts) (loc : Location) :
    loc.along parts = parts.reverse ++ loc := by
  induction parts generalizing loc with
  | nil => rfl
  | cons part rest ih =>
    have hpart : part ≠ ".." := fun e => h (e ▸ List.mem_cons_self)
    have hrest := ih (fun hmem => h (List.mem_cons_of_mem _ hmem)) (part :: loc)
    show (loc.next part).along rest = _
    rw [next, if_neg hpart, hrest, List.reverse_cons, List.append_assoc]
    rfl

end Location

/-! ## 2. Paths that fit -/

namespace Path

/-- Can a path be asked for at all? -/
def TextFits (p : Path) : Prop :=
  '\x00' ∉ p.text.toList ∧ p.text.utf8ByteSize ≤ FileTree.maxPathBytes

/-- **A path that fits**, as a whole and in each of its names. -/
structure Fits (p : Path) : Prop where
  text : p.TextFits
  names : ∀ part ∈ p.parts, part.utf8ByteSize ≤ FileTree.maxNameBytes

end Path

namespace FileTree

variable {tree : FileTree} {p : Path}

/-- The location behind the first `n` names of a path. -/
def stop (tree : FileTree) (p : Path) (n : Nat) : Location :=
  (tree.start p).along (p.parts.take n)

/-- The last stop of a path. -/
def goal (tree : FileTree) (p : Path) : Location := tree.stop p p.parts.length

theorem goal_eq (tree : FileTree) (p : Path) : tree.goal p = (tree.start p).along p.parts := by
  unfold goal stop
  rw [List.take_length]

theorem stop_zero (tree : FileTree) (p : Path) : tree.stop p 0 = tree.start p := rfl

theorem stop_succ {n : Nat} (h : n < p.parts.length) :
    tree.stop p (n + 1) = (tree.stop p n).next p.parts[n] := by
  unfold stop
  rw [List.take_succ_eq_append_getElem h, Location.along_append]
  rfl

/-- Trees seen from one place have the same stops. -/
theorem stop_of_here {tree tree' : FileTree} (h : tree'.here = tree.here) (p : Path) (n : Nat) :
    tree'.stop p n = tree.stop p n := by
  unfold stop start
  rw [h]

theorem goal_of_here {tree tree' : FileTree} (h : tree'.here = tree.here) (p : Path) :
    tree'.goal p = tree.goal p :=
  stop_of_here h p _

theorem find?_start (tree : FileTree) (p : Path) : tree.find? (tree.start p) = some .directory := by
  unfold start
  split
  · exact tree.isDirectory_here
  · rfl

/-- What stands above a directory is one. -/
theorem find?_tail {loc : Location} (h : tree.find? loc = some .directory) :
    tree.find? loc.tail = some .directory := by
  cases loc with
  | nil => exact h
  | cons name up => exact tree.above name up (by rw [show Entry.find? _ _ = _ from h]; simp)

/-- **What stands above anything is a directory.** -/
theorem find?_of_above {names : List String} {loc : Location} (hne : names ≠ [])
    (h : tree.find? (names ++ loc) ≠ none) : tree.find? loc = some .directory := by
  induction names with
  | nil => exact absurd rfl hne
  | cons name rest ih =>
    have habove : tree.find? (rest ++ loc) = some .directory := tree.above name (rest ++ loc) h
    cases rest with
    | nil => exact habove
    | cons other more => exact ih (List.cons_ne_nil _ _) (by rw [habove]; simp)

theorem step_eq_ok_iff {loc loc' : Location} {part : String} :
    tree.step loc part = .ok loc' ↔
      tree.find? loc = some .directory ∧ part.utf8ByteSize ≤ maxNameBytes ∧
        loc' = loc.next part := by
  have hdots : "..".utf8ByteSize ≤ maxNameBytes := by decide
  unfold step Location.next
  cases hfind : tree.find? loc with
  | none => simp
  | some e =>
    cases e with
    | file bytes => simp
    | directory =>
      dsimp only
      by_cases hpart : part = ".."
      · subst hpart
        simp [hdots, eq_comm]
      · rw [if_neg hpart, if_neg hpart]
        by_cases hlong : maxNameBytes < part.utf8ByteSize
        · simp [hlong, Nat.not_le.mpr hlong]
        · simp [hlong, Nat.le_of_not_lt hlong, eq_comm]

theorem foldlM_step_eq_ok_iff {parts : List String} {loc loc' : Location} :
    parts.foldlM tree.step loc = .ok loc' ↔
      (∀ part ∈ parts, part.utf8ByteSize ≤ maxNameBytes) ∧
      (∀ n < parts.length, tree.find? (loc.along (parts.take n)) = some .directory) ∧
        loc' = loc.along parts := by
  induction parts generalizing loc with
  | nil => simp [Location.along, pure, Except.pure, eq_comm]
  | cons part rest ih =>
    have hbind : (part :: rest).foldlM tree.step loc = .ok loc' ↔
        ∃ between, tree.step loc part = .ok between ∧ rest.foldlM tree.step between = .ok loc' := by
      rw [List.foldlM_cons]
      cases hstep : tree.step loc part with
      | error e => simp [bind, Except.bind]
      | ok between => simp [bind, Except.bind]
    rw [hbind]
    constructor
    · rintro ⟨between, hstep, hrest⟩
      obtain ⟨hdirectory, hpart, rfl⟩ := step_eq_ok_iff.mp hstep
      obtain ⟨hnames, hways, hloc⟩ := ih.mp hrest
      refine ⟨List.forall_mem_cons.mpr ⟨hpart, hnames⟩, fun n hn => ?_, hloc⟩
      cases n with
      | zero => exact hdirectory
      | succ n => exact hways n (Nat.lt_of_succ_lt_succ hn)
    · rintro ⟨hnames, hways, hloc⟩
      obtain ⟨hpart, hrest⟩ := List.forall_mem_cons.mp hnames
      refine ⟨loc.next part, step_eq_ok_iff.mpr ⟨hways 0 (Nat.succ_pos _), hpart, rfl⟩, ?_⟩
      exact ih.mpr ⟨hrest, fun n hn => hways (n + 1) (Nat.succ_lt_succ hn), hloc⟩

/-- **Where a path leads**: if it fits, and there are directories at all stops before the last. -/
theorem locate_eq_ok_iff {loc : Location} :
    tree.locate p = .ok loc ↔
      p.Fits ∧ (∀ n < p.parts.length, tree.find? (tree.stop p n) = some .directory) ∧
        loc = tree.goal p := by
  have hfits : p.Fits ↔ p.TextFits ∧ ∀ part ∈ p.parts, part.utf8ByteSize ≤ maxNameBytes :=
    ⟨fun h => ⟨h.text, h.names⟩, fun h => ⟨h.1, h.2⟩⟩
  rw [hfits, goal_eq]
  unfold locate Path.TextFits
  by_cases hnull : p.text.toList.contains '\x00' = true
  · rw [if_pos hnull]
    simp [List.contains_iff_mem.mp hnull]
  · have hmem : '\x00' ∉ p.text.toList := fun h => hnull (List.contains_iff_mem.mpr h)
    rw [if_neg hnull]
    by_cases hlong : maxPathBytes < p.text.utf8ByteSize
    · rw [if_pos hlong]
      simp [Nat.not_le.mpr hlong]
    · rw [if_neg hlong, foldlM_step_eq_ok_iff]
      simp only [hmem, not_false_eq_true, Nat.le_of_not_lt hlong, and_self, true_and]
      exact Iff.rfl

theorem entryAt_eq_ok_iff_goal {e : Entry} :
    tree.entryAt p = .ok e ↔
      p.Fits ∧ (∀ n < p.parts.length, tree.find? (tree.stop p n) = some .directory) ∧
        tree.find? (tree.goal p) = some e := by
  rw [entryAt_eq_ok_iff]
  constructor
  · rintro ⟨loc, hloc, hfind⟩
    obtain ⟨hfits, hways, rfl⟩ := locate_eq_ok_iff.mp hloc
    exact ⟨hfits, hways, hfind⟩
  · rintro ⟨hfits, hways, hfind⟩
    exact ⟨_, locate_eq_ok_iff.mpr ⟨hfits, hways, rfl⟩, hfind⟩

/-! ## 3. The directories of a path -/

theorem parts_outer (p : Path) (n : Nat) : (outer p n).parts = p.parts.take n := rfl

theorem stop_outer (tree : FileTree) (p : Path) {m n : Nat} (h : m ≤ n) :
    tree.stop (outer p n) m = tree.stop p m := by
  unfold stop
  rw [parts_outer, List.take_take, Nat.min_eq_left h]
  rfl

theorem goal_outer (tree : FileTree) (p : Path) {n : Nat} (h : n ≤ p.parts.length) :
    tree.goal (outer p n) = tree.stop p n := by
  unfold goal
  rw [parts_outer, List.length_take_of_le h]
  exact stop_outer tree p (Nat.le_refl n)

/-- The directory of a path is what its first names but one lead to. -/
theorem parent_eq_outer (p : Path) : p.parent = outer p (p.parts.length - 1) := by
  unfold Path.parent outer
  simp only [List.dropLast_eq_take]

theorem parts_parent (p : Path) : p.parent.parts = p.parts.dropLast := rfl

theorem stop_parent (tree : FileTree) {p : Path} {n : Nat} (h : n < p.parts.length) :
    tree.stop p.parent n = tree.stop p n := by
  rw [parent_eq_outer]
  exact stop_outer tree p (Nat.le_sub_one_of_lt h)

/-! ## 4. Trees before and after -/

/-- **Trees that hold the same**, and are used alike. -/
structure Alike (tree other : FileTree) : Prop where
  here : other.here = tree.here
  readable : other.readable = tree.readable
  find? : ∀ loc, other.find? loc = tree.find? loc

section Written

variable {texts : List (Path × String)} {before between after : FileTree}

/-- What leads to a stop on the way to the directory of a path. -/
theorem exists_stop_of_locate {n : Nat} {loc : Location} (hnone : tree.find? loc ≠ some .directory)
    {tree' : FileTree} (hhere : tree'.here = tree.here)
    (h : tree'.locate (outer p.parent n) = .ok loc) :
    ∃ m < p.parts.length, loc = tree.stop p m := by
  obtain ⟨_, _, rfl⟩ := locate_eq_ok_iff.mp h
  have hgoal : tree'.goal (outer p.parent n) =
      (tree.start p).along ((p.parts.dropLast).take n) := by
    rw [goal_of_here hhere, goal_eq]
    rfl
  rw [hgoal] at hnone ⊢
  have htake : (p.parts.dropLast).take n = p.parts.take (min n (p.parts.length - 1)) := by
    rw [List.dropLast_eq_take, List.take_take]
  rw [htake] at hnone ⊢
  refine ⟨min n (p.parts.length - 1), ?_, rfl⟩
  cases hlength : p.parts.length with
  | zero =>
    -- a path without names leads to where it starts, and there is a directory
    refine absurd ?_ hnone
    rw [List.eq_nil_of_length_eq_zero hlength, List.take_nil]
    exact find?_start tree p
  | succ k => omega

section

variable (h : Written texts (texts.map (·.1)) before after)
include h

theorem Written.fits {t : Path × String} (ht : t ∈ texts) : t.1.Fits :=
  (entryAt_eq_ok_iff_goal.mp (h.holds t ht)).1

/-- Where a text was written, it stands. -/
theorem Written.find?_goal {t : Path × String} (ht : t ∈ texts) :
    after.find? (before.goal t.1) = some (.file (Utf8.encode t.2.toList)) := by
  rw [← goal_of_here h.here]
  exact (entryAt_eq_ok_iff_goal.mp (h.holds t ht)).2.2

/-- On the way there, there are directories. -/
theorem Written.find?_stop {t : Path × String} (ht : t ∈ texts) {n : Nat}
    (hn : n < t.1.parts.length) : after.find? (before.stop t.1 n) = some .directory := by
  rw [← stop_of_here h.here]
  exact (entryAt_eq_ok_iff_goal.mp (h.holds t ht)).2.1 n hn

/-- No file was in the way. -/
theorem Written.clear {t : Path × String} (ht : t ∈ texts) {n : Nat}
    (hn : n < t.1.parts.length) (bytes : List UInt8) :
    before.find? (before.stop t.1 n) ≠ some (.file bytes) := by
  intro hfile
  have hnow := h.find?_stop ht hn
  have hother : ∀ u ∈ texts, after.locate u.1 ≠ .ok (before.stop t.1 n) := by
    intro u hu hloc
    obtain ⟨_, _, heq⟩ := locate_eq_ok_iff.mp hloc
    rw [heq, goal_of_here h.here, h.find?_goal hu] at hnow
    cases hnow
  rw [(h.find?_file_iff hother bytes).mpr hfile] at hnow
  cases hnow

/-- **Elsewhere nothing changed.** -/
theorem Written.find?_eq {loc : Location} (hgoal : ∀ t ∈ texts, before.goal t.1 ≠ loc)
    (hstop : ∀ t ∈ texts, ∀ n < t.1.parts.length, before.stop t.1 n ≠ loc) :
    after.find? loc = before.find? loc := by
  have hother : ∀ t ∈ texts, after.locate t.1 ≠ .ok loc := by
    intro t ht hloc
    obtain ⟨_, _, rfl⟩ := locate_eq_ok_iff.mp hloc
    exact hgoal t ht (goal_of_here h.here t.1).symm
  rcases h.elsewhere loc hother with hsame | ⟨hnone, _, p, hp, n, hway⟩
  · exact hsame
  · obtain ⟨t, ht, rfl⟩ := List.mem_map.mp hp
    obtain ⟨m, hm, rfl⟩ := exists_stop_of_locate (by rw [hnone]; simp) h.here hway
    exact absurd rfl (hstop t ht m hm)

/-- **Nothing is gone.** -/
theorem Written.exists_find? {loc : Location} {e : Entry} (hloc : before.find? loc = some e) :
    ∃ e', after.find? loc = some e' := by
  by_cases hgoal : ∃ t ∈ texts, before.goal t.1 = loc
  · obtain ⟨t, ht, rfl⟩ := hgoal
    exact ⟨_, h.find?_goal ht⟩
  · by_cases hstop : ∃ t ∈ texts, ∃ n < t.1.parts.length, before.stop t.1 n = loc
    · obtain ⟨t, ht, n, hn, rfl⟩ := hstop
      exact ⟨_, h.find?_stop ht hn⟩
    · refine ⟨e, ?_⟩
      rw [h.find?_eq (fun t ht heq => hgoal ⟨t, ht, heq⟩) fun t ht n hn heq =>
        hstop ⟨t, ht, n, hn, heq⟩, hloc]

/-- **Where a directory is afterwards**: where one was, or at a stop of what was written. -/
theorem Written.find?_directory {loc : Location} (hloc : after.find? loc = some .directory) :
    before.find? loc = some .directory ∨
      ∃ t ∈ texts, ∃ n < t.1.parts.length, before.stop t.1 n = loc := by
  by_cases hstop : ∃ t ∈ texts, ∃ n < t.1.parts.length, before.stop t.1 n = loc
  · exact Or.inr hstop
  · refine Or.inl ?_
    have hgoal : ∀ t ∈ texts, before.goal t.1 ≠ loc := by
      rintro t ht rfl
      rw [h.find?_goal ht] at hloc
      cases hloc
    rw [← h.find?_eq hgoal fun t ht n hn heq => hstop ⟨t, ht, n, hn, heq⟩]
    exact hloc

end

/-- **The same texts, in whatever order**, make the same tree of one tree. -/
theorem alike_of_written {texts' : List (Path × String)} {after' : FileTree}
    (h : Written texts (texts.map (·.1)) before after)
    (h' : Written texts' (texts'.map (·.1)) before after') (hsame : ∀ t, t ∈ texts ↔ t ∈ texts') :
    Alike after after' := by
  refine ⟨h'.here.trans h.here.symm, h'.readable.trans h.readable.symm, fun loc => ?_⟩
  by_cases hgoal : ∃ t ∈ texts, before.goal t.1 = loc
  · obtain ⟨t, ht, rfl⟩ := hgoal
    rw [h.find?_goal ht, h'.find?_goal ((hsame t).mp ht)]
  · by_cases hstop : ∃ t ∈ texts, ∃ n < t.1.parts.length, before.stop t.1 n = loc
    · obtain ⟨t, ht, n, hn, rfl⟩ := hstop
      rw [h.find?_stop ht hn, h'.find?_stop ((hsame t).mp ht) hn]
    · rw [h.find?_eq (fun t ht heq => hgoal ⟨t, ht, heq⟩) fun t ht n hn heq =>
          hstop ⟨t, ht, n, hn, heq⟩,
        h'.find?_eq (fun t ht heq => hgoal ⟨t, (hsame t).mpr ht, heq⟩) fun t ht n hn heq =>
          hstop ⟨t, (hsame t).mpr ht, n, hn, heq⟩]

end Written

end FileTree

end SampleSchema
