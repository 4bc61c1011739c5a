import SampleSchema.Proofs.FileTree.Ways

/-!
# Where a text can be written

Directories are made where they are missing, so the way to a file is CLEAR unless a file stands at
one of its stops, and nothing else but a name or a path that does not fit keeps the directories from
being made (`FileTree.exists_makeDirectories`). The text itself then only fails where a directory
is, and that may be one that was made for it: a path can pass its own goal and come back. So
`FileTree.writeText_cases` says exactly when a text is written, from the tree before.
-/

namespace SampleSchema

/-! ## 1. Beginnings of paths that fit -/

namespace Path

theorem exists_intercalate_append (parts more : List String) :
    ∃ rest, "/".intercalate (parts ++ more) = "/".intercalate parts ++ rest := by
  have hlist : ∀ pieces others : List (List Char),
      ∃ rest, ['/'].intercalate (pieces ++ others) = ['/'].intercalate pieces ++ rest := by
    intro pieces others
    induction pieces with
    | nil => exact ⟨_, rfl⟩
    | cons piece pieces ih =>
      cases pieces with
      | nil =>
        cases others with
        | nil => exact ⟨[], (List.append_nil _).symm⟩
        | cons other others =>
          exact ⟨'/' :: ['/'].intercalate (other :: others), by
            rw [List.singleton_append, List.intercalate_cons_cons, List.intercalate_singleton]
            simp⟩
      | cons next pieces =>
        obtain ⟨rest, hrest⟩ := ih
        rw [List.cons_append] at hrest
        refine ⟨rest, ?_⟩
        rw [List.cons_append, List.cons_append, List.intercalate_cons_cons, hrest,
          List.intercalate_cons_cons]
        simp
  obtain ⟨rest, hrest⟩ := hlist (parts.map (·.toList)) (more.map (·.toList))
  refine ⟨String.ofList rest, String.toList_inj.mp ?_⟩
  have hback : (String.ofList rest).toList = rest := String.toList_ofList
  rw [String.toList_append, String.toList_intercalate, String.toList_intercalate, List.map_append,
    hback]
  exact hrest

theorem textFits_outer {p : Path} (h : p.TextFits) (n : Nat) : (FileTree.outer p n).TextFits := by
  obtain ⟨hnull, hshort⟩ := h
  unfold TextFits text
  by_cases hnone : (FileTree.outer p n).root = .relative ∧ (FileTree.outer p n).parts = []
  · rw [if_pos hnone]
    decide
  · have hsome : ¬ (p.root = .relative ∧ p.parts = []) := by
      rintro ⟨hroot, hparts⟩
      have hparts' : p.parts.take n = [] := by rw [hparts, List.take_nil]
      exact hnone ⟨hroot, hparts'⟩
    obtain ⟨rest, hrest⟩ := exists_intercalate_append (p.parts.take n) (p.parts.drop n)
    rw [List.take_append_drop] at hrest
    have htext : p.text = (p.root.text ++ "/".intercalate (p.parts.take n)) ++ rest := by
      unfold text
      rw [if_neg hsome, hrest, String.append_assoc]
    rw [if_neg hnone]
    show '\x00' ∉ (p.root.text ++ "/".intercalate (p.parts.take n)).toList ∧
      (p.root.text ++ "/".intercalate (p.parts.take n)).utf8ByteSize ≤ FileTree.maxPathBytes
    rw [htext] at hnull hshort
    generalize p.root.text ++ "/".intercalate (p.parts.take n) = front at hnull hshort ⊢
    refine ⟨fun hmem => hnull ?_, Nat.le_trans ?_ hshort⟩
    · rw [String.toList_append]
      exact List.mem_append_left _ hmem
    · rw [String.utf8ByteSize_append]
      exact Nat.le_add_right _ _

theorem fits_outer {p : Path} (h : p.Fits) (n : Nat) : (FileTree.outer p n).Fits :=
  ⟨textFits_outer h.text n, fun part hpart => h.names part (List.take_subset _ _ hpart)⟩

end Path

namespace FileTree

variable {tree : FileTree} {p : Path}

/-! ## 2. Directories -/

/-- **No file stands at the first stops of a path.** -/
def ClearTo (tree : FileTree) (p : Path) (n : Nat) : Prop :=
  ∀ m ≤ n, ∀ bytes, tree.find? (tree.stop p m) ≠ some (.file bytes)

theorem foldlM_step_cases {parts : List String} {loc : Location}
    (hnames : ∀ part ∈ parts, part.utf8ByteSize ≤ maxNameBytes)
    (hclear : ∀ n < parts.length, ∀ bytes, tree.find? (loc.along (parts.take n)) ≠ some (.file bytes)) :
    parts.foldlM tree.step loc = .ok (loc.along parts) ∨
      parts.foldlM tree.step loc = .error .missing := by
  induction parts generalizing loc with
  | nil => exact Or.inl rfl
  | cons part rest ih =>
    obtain ⟨hpart, hrest⟩ := List.forall_mem_cons.mp hnames
    rw [List.foldlM_cons]
    cases hfind : tree.find? loc with
    | none =>
      refine Or.inr ?_
      unfold step
      rw [hfind]
      rfl
    | some e =>
      cases e with
      | file bytes => exact absurd hfind (hclear 0 (Nat.succ_pos _) bytes)
      | directory =>
        rw [step_eq_ok_iff.mpr ⟨hfind, hpart, rfl⟩]
        exact ih hrest fun n hn => hclear (n + 1) (Nat.succ_lt_succ hn)

/-- Where no file is in the way, a path leads to its goal unless something is missing. -/
theorem locate_cases_of_clear (hfits : p.Fits)
    (hclear : ∀ n < p.parts.length, ∀ bytes, tree.find? (tree.stop p n) ≠ some (.file bytes)) :
    tree.locate p = .ok (tree.goal p) ∨ tree.locate p = .error .missing := by
  have hnull : ¬ p.text.toList.contains '\x00' = true := fun h =>
    hfits.text.1 (List.contains_iff_mem.mp h)
  unfold locate
  rw [if_neg hnull, if_neg (Nat.not_lt.mpr hfits.text.2), goal_eq]
  exact foldlM_step_cases hfits.names hclear

theorem place_eq_ok {loc : Location} {e : Entry} (hup : tree.find? loc.tail = some .directory)
    (hloc : tree.find? loc ≠ some .directory) :
    ∃ tree', place p loc e tree = .ok () tree' ∧ Kept tree tree' ∧ tree'.find? loc = some e := by
  cases loc with
  | nil => exact absurd rfl hloc
  | cons name up =>
    cases hinsert : tree.insert? name up e with
    | none =>
      unfold insert? at hinsert
      rw [dif_pos ⟨hup, hloc⟩] at hinsert
      cases hinsert
    | some tree' =>
      have hkept : Kept tree tree' := by
        refine ⟨(here_insert? hinsert).1, fun other hother => ?_⟩
        have hne : other ≠ name :: up := fun heq => hloc (heq ▸ hother)
        rw [find?_insert?_of_ne hinsert hne]
        exact hother
      refine ⟨tree', ?_, hkept, find?_insert?_self hinsert⟩
      simp only [place, hinsert]

theorem place_of_directory {loc : Location} {e : Entry} (hloc : tree.find? loc = some .directory) :
    place p loc e tree = .error ⟨.isADirectory, p⟩ tree := by
  cases loc with
  | nil => rfl
  | cons name up =>
    have hinsert : tree.insert? name up e = none := by
      unfold insert?
      rw [dif_neg fun h => h.2 hloc]
    simp only [place, hinsert]

/-- Where a path leads to nothing, it leads to its last name in a directory. -/
theorem find?_tail_goal {loc : Location} (hloc : tree.locate p = .ok loc)
    (hfind : tree.find? loc ≠ some .directory) : tree.find? loc.tail = some .directory := by
  obtain ⟨_, hways, rfl⟩ := locate_eq_ok_iff.mp hloc
  unfold goal at *
  cases hlength : p.parts.length with
  | zero =>
    rw [hlength] at hfind
    exact absurd (find?_start tree p) hfind
  | succ n =>
    rw [hlength] at hfind hways
    have hlast : tree.find? (tree.stop p n) = some .directory := hways n (Nat.lt_succ_self n)
    have hn : n < p.parts.length := by omega
    rw [stop_succ hn, Location.next] at hfind ⊢
    split
    · rename_i hdots
      rw [if_pos hdots] at hfind
      exact absurd (find?_tail hlast) hfind
    · exact hlast

theorem ensureDirectory_of_directory (h : tree.entryAt p = .ok .directory) :
    ensureDirectory p tree = .ok () tree := by
  obtain ⟨loc, hloc, hfind⟩ := entryAt_eq_ok_iff.mp h
  have hmade : makeDirectory p tree = .error ⟨.alreadyThere, p⟩ tree := by
    simp only [makeDirectory, hloc, hfind]
  have hthere : tree.isDirectory p = true := by
    simp only [isDirectory, h]
  unfold ensureDirectory
  rw [hmade]
  exact if_pos ⟨by simp, by simp, hthere⟩

theorem ensureDirectory_of_missing (h : tree.locate p = .error .missing) :
    ensureDirectory p tree = .error ⟨.missing, p⟩ tree := by
  have hmade : makeDirectory p tree = .error ⟨.missing, p⟩ tree := by
    simp only [makeDirectory, h]
  unfold ensureDirectory
  rw [hmade]
  exact if_neg fun hcond => hcond.1 rfl

/-- A directory is made where a path leads, unless a file is there. -/
theorem ensureDirectory_of_locate (hloc : tree.locate p = .ok (tree.goal p))
    (hclear : ∀ bytes, tree.find? (tree.goal p) ≠ some (.file bytes)) :
    ∃ tree', ensureDirectory p tree = .ok () tree' ∧ tree'.entryAt p = .ok .directory := by
  cases hfind : tree.find? (tree.goal p) with
  | some e =>
    cases e with
    | file bytes => exact absurd hfind (hclear bytes)
    | directory =>
      have hentry := entryAt_eq_ok_iff.mpr ⟨_, hloc, hfind⟩
      exact ⟨tree, ensureDirectory_of_directory hentry, hentry⟩
  | none =>
    have hnone : tree.find? (tree.goal p) ≠ some .directory := by rw [hfind]; simp
    obtain ⟨tree', hplace, hkept, hmade⟩ :
        ∃ tree', place p (tree.goal p) .directory tree = .ok () tree' ∧ Kept tree tree' ∧
          tree'.find? (tree.goal p) = some .directory :=
      place_eq_ok (find?_tail_goal hloc hnone) hnone
    have hmake : makeDirectory p tree = .ok () tree' := by
      simp only [makeDirectory, hloc, hfind, hplace]
    refine ⟨tree', ?_, entryAt_eq_ok_iff.mpr ⟨_, locate_of_kept hkept hloc, hmade⟩⟩
    unfold ensureDirectory
    rw [hmake]

/-- Directories that were made leave the way of a path as clear as it was. -/
theorem clearTo_of_written {q : Path} {tree' : FileTree} (h : Written [] [q] tree tree') {n : Nat}
    (hclear : tree.ClearTo p n) : tree'.ClearTo p n := by
  intro m hm bytes hfile
  rw [stop_of_here h.here] at hfile
  exact hclear m hm bytes ((h.find?_file_iff (fun _ ht => absurd ht List.not_mem_nil) bytes).mp hfile)

/-- A path leads as far as its way is clear, unless something is missing. -/
theorem locate_outer_cases (hfits : p.Fits) {n : Nat} (hn : n ≤ p.parts.length)
    (hclear : tree.ClearTo p n) :
    tree.locate (outer p n) = .ok (tree.goal (outer p n)) ∨
      tree.locate (outer p n) = .error .missing := by
  refine locate_cases_of_clear (Path.fits_outer hfits n) fun m hm bytes => ?_
  rw [parts_outer, List.length_take_of_le hn] at hm
  rw [stop_outer tree p (Nat.le_of_lt hm)]
  exact hclear m (Nat.le_of_lt hm) bytes

theorem not_file_goal_outer {n : Nat} (hn : n ≤ p.parts.length) (hclear : tree.ClearTo p n)
    (bytes : List UInt8) : tree.find? (tree.goal (outer p n)) ≠ some (.file bytes) := by
  rw [goal_outer tree p hn]
  exact hclear n (Nat.le_refl n) bytes

/-- One name further than a directory there is a way. -/
theorem locate_outer_succ (hfits : p.Fits) {n : Nat} (hn : n + 1 ≤ p.parts.length)
    (h : tree.entryAt (outer p n) = .ok .directory) :
    tree.locate (outer p (n + 1)) = .ok (tree.goal (outer p (n + 1))) := by
  obtain ⟨_, hways, hgoal⟩ := entryAt_eq_ok_iff_goal.mp h
  rw [goal_outer tree p (Nat.le_of_succ_le hn)] at hgoal
  refine locate_eq_ok_iff.mpr ⟨Path.fits_outer hfits _, fun m hm => ?_, rfl⟩
  rw [parts_outer, List.length_take_of_le hn] at hm
  rw [stop_outer tree p (Nat.le_of_lt hm)]
  rcases Nat.lt_succ_iff_lt_or_eq.mp hm with hm | rfl
  · rw [← stop_outer tree p (Nat.le_of_lt hm)]
    refine hways m ?_
    rw [parts_outer, List.length_take_of_le (Nat.le_of_succ_le hn)]
    exact hm
  · exact hgoal

/-- **The directory of a path is made**, if its way is clear. -/
theorem exists_makeOuter (hfits : p.parent.Fits) {n : Nat} (hn : n ≤ p.parent.parts.length)
    (hclear : tree.ClearTo p.parent n) :
    ∃ tree', makeOuter p.parent n tree = .ok () tree' ∧
      tree'.entryAt (outer p.parent n) = .ok .directory := by
  induction n with
  | zero =>
    have hloc : tree.locate (outer p.parent 0) = .ok (tree.goal (outer p.parent 0)) :=
      locate_eq_ok_iff.mpr ⟨Path.fits_outer hfits 0, fun m hm => absurd hm (Nat.not_lt_zero m), rfl⟩
    exact ensureDirectory_of_locate hloc (not_file_goal_outer hn hclear)
  | succ n ih =>
    rcases locate_outer_cases hfits hn hclear with hloc | hmissing
    · obtain ⟨tree', hmade, hentry⟩ :=
        ensureDirectory_of_locate hloc (not_file_goal_outer hn hclear)
      refine ⟨tree', ?_, hentry⟩
      unfold makeOuter
      rw [hmade]
    · -- something on the way is missing: it is made first, and then there is a way
      obtain ⟨between, habove, hdirectory⟩ := ih (Nat.le_of_succ_le hn) fun m hm =>
        hclear m (Nat.le_succ_of_le hm)
      have hmakes := makes_makeOuter p n tree
      rw [habove] at hmakes
      have hclear' : between.ClearTo p.parent (n + 1) := clearTo_of_written hmakes.written hclear
      obtain ⟨tree', hmade, hentry⟩ := ensureDirectory_of_locate
        (locate_outer_succ hfits hn hdirectory) (not_file_goal_outer hn hclear')
      refine ⟨tree', ?_, hentry⟩
      unfold makeOuter
      rw [ensureDirectory_of_missing hmissing]
      dsimp only
      rw [if_pos rfl, habove]
      exact hmade

theorem outer_self (p : Path) : outer p p.parts.length = p := by
  unfold outer
  simp only [List.take_length]

/-- **The directories for a file are made**, if their way is clear. -/
theorem exists_makeDirectories (hfits : p.parent.Fits)
    (hclear : tree.ClearTo p.parent p.parent.parts.length) :
    ∃ tree', makeDirectories p.parent tree = .ok () tree' ∧
      tree'.entryAt p.parent = .ok .directory := by
  obtain ⟨tree', hmade, hentry⟩ := exists_makeOuter hfits (Nat.le_refl _) hclear
  rw [outer_self] at hentry
  exact ⟨tree', hmade, hentry⟩

/-! ## 3. Texts -/

/-- A goal that is a directory, or is made one on the way to it. -/
def Obstructed (tree : FileTree) (p : Path) : Prop :=
  tree.find? (tree.goal p) = some .directory ∨ ∃ n < p.parts.length, tree.stop p n = tree.goal p

/-- **Writing obstructs no path**, and frees none, if the ways of what is written pass the goal of the
    path only where its own way does. -/
theorem Written.obstructed_iff {texts : List (Path × String)} {tree' : FileTree}
    (h : Written texts (texts.map (·.1)) tree tree')
    (hown : ∀ t ∈ texts, ∀ n < t.1.parts.length, tree.stop t.1 n = tree.goal p →
      ∃ m < p.parts.length, tree.stop p m = tree.goal p) :
    tree'.Obstructed p ↔ tree.Obstructed p := by
  have hstop := fun n => stop_of_here h.here p n
  have hgoal := goal_of_here h.here p
  constructor
  · rintro (hdirectory | ⟨n, hn, heq⟩)
    · rw [hgoal] at hdirectory
      rcases h.find?_directory hdirectory with hbefore | ⟨t, ht, n, hn, heq⟩
      · exact Or.inl hbefore
      · exact Or.inr (hown t ht n hn heq)
    · rw [hstop, hgoal] at heq
      exact Or.inr ⟨n, hn, heq⟩
  · rintro (hdirectory | ⟨n, hn, heq⟩)
    · exact Or.inl (by rw [hgoal]; exact h.directories _ hdirectory)
    · exact Or.inr ⟨n, hn, by rw [hstop, hgoal, heq]⟩

/-- **A path to which a text can be written.** -/
structure Writable (tree : FileTree) (p : Path) : Prop where
  fits : p.Fits
  clear : ∀ n < p.parts.length, ∀ bytes, tree.find? (tree.stop p n) ≠ some (.file bytes)
  free : ¬ tree.Obstructed p

theorem fits_parent (h : p.Fits) : p.parent.Fits := by
  rw [parent_eq_outer]
  exact Path.fits_outer h _

section Texts

variable (hfits : p.Fits)
  (hclear : ∀ n < p.parts.length, ∀ bytes, tree.find? (tree.stop p n) ≠ some (.file bytes))
include hfits hclear

/-- **The directories for a file are made**, and then there is a way to it. It ends at a directory
    exactly if it is obstructed. -/
theorem exists_made : ∃ tree', makeDirectories p.parent tree = .ok () tree' ∧
    tree'.locate p = .ok (tree.goal p) ∧
    (tree'.find? (tree.goal p) = some .directory ↔ tree.Obstructed p) := by
  have hclear' : tree.ClearTo p.parent p.parent.parts.length := by
    intro n hn bytes
    by_cases hshort : n < p.parts.length
    · rw [stop_parent tree hshort]
      exact hclear n hshort bytes
    · have hzero : n = 0 := by
        rw [parts_parent, List.length_dropLast] at hn
        omega
      rw [hzero, stop_zero, find?_start]
      simp
  obtain ⟨tree', hmade, hentry⟩ := exists_makeDirectories (fits_parent hfits) hclear'
  have hmakes := makes_makeDirectories p tree
  rw [hmade] at hmakes
  have hwritten : Written [] [p] tree tree' := hmakes.written
  have hloc : tree'.locate p = .ok (tree.goal p) := by
    rw [← goal_of_here hwritten.here]
    cases hlength : p.parts.length with
    | zero =>
      refine locate_eq_ok_iff.mpr ⟨hfits, fun n hn => ?_, rfl⟩
      rw [hlength] at hn
      exact absurd hn (Nat.not_lt_zero n)
    | succ n =>
      rw [parent_eq_outer, hlength, Nat.add_sub_cancel] at hentry
      have hway := locate_outer_succ hfits (Nat.le_of_eq hlength.symm) hentry
      rw [← hlength, outer_self] at hway
      exact hway
  refine ⟨tree', hmade, hloc, fun hdirectory => ?_, fun hobstructed => ?_⟩
  · rcases hwritten.elsewhere (tree.goal p) (fun t ht => absurd ht List.not_mem_nil) with
      hsame | ⟨hnone, _, q, hq, n, hway⟩
    · exact Or.inl (hsame ▸ hdirectory)
    · rw [List.mem_singleton.mp hq] at hway
      obtain ⟨m, hm, hstop⟩ := exists_stop_of_locate (by rw [hnone]; simp) hwritten.here hway
      exact Or.inr ⟨m, hm, hstop.symm⟩
  · rcases hobstructed with hdirectory | ⟨n, hn, hstop⟩
    · exact hwritten.directories _ hdirectory
    · rw [← hstop, ← stop_of_here hwritten.here]
      exact (locate_eq_ok_iff.mp hloc).2.1 n hn

/-- **A text is written unless its goal is obstructed**, and then that is the fault. -/
theorem writeText_cases (text : String) :
    (¬ tree.Obstructed p ∧ ∃ tree', writeText p text tree = .ok () tree') ∨
    (tree.Obstructed p ∧ ∃ tree', writeText p text tree = .error ⟨.isADirectory, p⟩ tree') := by
  obtain ⟨between, hmade, hloc, hiff⟩ := exists_made hfits hclear
  have hwrite : writeText p text tree =
      place p (tree.goal p) (.file (Utf8.encode text.toList)) between := by
    rw [writeText_eq, hmade]
    simp only [writeFile, hloc]
  rw [hwrite, ← hiff]
  by_cases hdirectory : between.find? (tree.goal p) = some .directory
  · exact Or.inr ⟨hdirectory, between, place_of_directory hdirectory⟩
  · obtain ⟨tree', hplace, _⟩ := place_eq_ok (p := p) (e := .file (Utf8.encode text.toList))
      (find?_tail_goal hloc hdirectory) hdirectory
    exact Or.inl ⟨hdirectory, tree', hplace⟩

end Texts

/-- **When a text can be written.** -/
theorem exists_writeText_iff {text : String} :
    (∃ tree', writeText p text tree = .ok () tree') ↔ tree.Writable p := by
  constructor
  · rintro ⟨tree', hwrite⟩
    have hwritten := written_of_writeText hwrite
    have hmem := List.mem_singleton_self (p, text)
    have hclear := fun n hn bytes => hwritten.clear hmem (n := n) hn bytes
    have hfits := hwritten.fits hmem
    rcases writeText_cases hfits hclear text with ⟨hfree, _⟩ | ⟨_, _, hfault⟩
    · exact ⟨hfits, hclear, hfree⟩
    · rw [hwrite] at hfault
      cases hfault
  · rintro ⟨hfits, hclear, hfree⟩
    rcases writeText_cases hfits hclear text with ⟨_, hwrite⟩ | ⟨hobstructed, _⟩
    · exact hwrite
    · exact absurd hobstructed hfree

end FileTree

end SampleSchema
