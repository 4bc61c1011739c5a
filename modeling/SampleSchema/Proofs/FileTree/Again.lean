import SampleSchema.Proofs.FileTree.Making

/-!
# Writing once more

A tree is SETTLED for an action once the action was tried on it: trying again ends as it ended and
leaves the tree as it is (`FileTree.writeText_again`). The tree is the same in its entries and their
order, not only in what it holds. A fault may be another one the second time: the directories that
were made before the first fault can let a path be followed further, up to a file in its way.
-/

namespace SampleSchema

/-- **The same end**: the same value and state, or a fault and the same state. -/
inductive SameEnd {ε σ α : Type} : EStateM.Result ε σ α → EStateM.Result ε σ α → Prop
  | ok (a : α) (s : σ) : SameEnd (.ok a s) (.ok a s)
  | error (e e' : ε) (s : σ) : SameEnd (.error e s) (.error e' s)

/-- What ends as a fault does is one, with the same state. -/
theorem SameEnd.exists_error {ε σ α : Type} {r : EStateM.Result ε σ α} {e : ε} {s : σ}
    (h : SameEnd r (.error e s)) : ∃ e', r = .error e' s := by
  cases h
  exact ⟨_, rfl⟩

/-! ## 1. What stands already -/

namespace FileTree

variable {tree tree' : FileTree} {p : Path}

theorem insert?_of_find? {name : String} {up : Location} {bytes : List UInt8}
    (h : tree.find? (name :: up) = some (.file bytes)) :
    tree.insert? name up (.file bytes) = some tree := by
  have hup : tree.find? up = some .directory :=
    find?_of_above (List.cons_ne_nil name []) (by rw [List.singleton_append, h]; simp)
  have hfile : tree.find? (name :: up) ≠ some .directory := by
    rw [h]
    simp
  have hsame : Entries.put tree.entries (name :: up) (.file bytes) = tree.entries :=
    Entries.put_of_get? h
  unfold insert?
  rw [dif_pos ⟨hup, hfile⟩]
  cases tree
  simp only [Option.some.injEq, FileTree.mk.injEq, and_true]
  exact hsame

/-- A file that holds the bytes already is not changed. -/
theorem writeFile_of_holds {bytes : List UInt8} (h : tree.entryAt p = .ok (.file bytes)) :
    writeFile p bytes tree = .ok () tree := by
  obtain ⟨loc, hloc, hfind⟩ := entryAt_eq_ok_iff.mp h
  cases loc with
  | nil => cases hfind
  | cons name up => simp only [writeFile, hloc, place, insert?_of_find? hfind]

/-- A path that leads somewhere passes directories. -/
theorem entryAt_outer_of_locate {n : Nat} (hn : n < p.parts.length) {loc : Location}
    (h : tree.locate p = .ok loc) : tree.entryAt (outer p n) = .ok .directory := by
  obtain ⟨hfits, hways, _⟩ := locate_eq_ok_iff.mp h
  refine entryAt_eq_ok_iff_goal.mpr ⟨Path.fits_outer hfits n, fun m hm => ?_, ?_⟩
  · rw [parts_outer, List.length_take_of_le (Nat.le_of_lt hn)] at hm
    rw [stop_outer tree p (Nat.le_of_lt hm)]
    exact hways m (Nat.lt_trans hm hn)
  · rw [goal_outer tree p (Nat.le_of_lt hn)]
    exact hways n hn

theorem outer_outer (p : Path) {m n : Nat} (h : m ≤ n) : outer (outer p n) m = outer p m := by
  unfold outer
  simp only [List.take_take, Nat.min_eq_left h]

/-- What a file stands in is a directory. -/
theorem entryAt_parent_of_file {bytes : List UInt8} (h : tree.entryAt p = .ok (.file bytes)) :
    tree.entryAt p.parent = .ok .directory := by
  obtain ⟨loc, hloc, hfind⟩ := entryAt_eq_ok_iff.mp h
  cases hlength : p.parts.length with
  | zero =>
    obtain ⟨_, _, rfl⟩ := locate_eq_ok_iff.mp hloc
    unfold goal at hfind
    rw [hlength, stop_zero, find?_start] at hfind
    cases hfind
  | succ n =>
    rw [parent_eq_outer, hlength, Nat.add_sub_cancel]
    exact entryAt_outer_of_locate (by omega) hloc

theorem makeOuter_of_directory {n : Nat} (h : tree.entryAt (outer p n) = .ok .directory) :
    makeOuter p n tree = .ok () tree := by
  have hensured := ensureDirectory_of_directory h
  cases n with
  | zero => exact hensured
  | succ n =>
    unfold makeOuter
    rw [hensured]

/-- **A text that stands already** is written without a change. -/
theorem writeText_of_holds {text : String}
    (h : tree.entryAt p = .ok (.file (Utf8.encode text.toList))) :
    writeText p text tree = .ok () tree := by
  have hmade : makeDirectories p.parent tree = .ok () tree := by
    refine makeOuter_of_directory ?_
    rw [outer_self]
    exact entryAt_parent_of_file h
  rw [writeText_eq, hmade]
  exact writeFile_of_holds h

/-! ## 2. What was tried already -/

/-- A directory is there afterwards, or nothing was changed. -/
theorem ensureDirectory_cases (p : Path) (tree : FileTree) :
    (∃ tree', ensureDirectory p tree = .ok () tree' ∧ (∃ loc, tree.locate p = .ok loc) ∧
      tree'.entryAt p = .ok .directory) ∨
    ∃ fault, ensureDirectory p tree = .error fault tree := by
  have hfails : ∀ e : FileError, makeDirectory p tree = .error ⟨e, p⟩ tree →
      (∃ tree', ensureDirectory p tree = .ok () tree' ∧ (∃ loc, tree.locate p = .ok loc) ∧
        tree'.entryAt p = .ok .directory) ∨
      ∃ fault, ensureDirectory p tree = .error fault tree := by
    intro e hmade
    by_cases hthere : tree.entryAt p = .ok .directory
    · obtain ⟨loc, hloc, _⟩ := entryAt_eq_ok_iff.mp hthere
      exact Or.inl ⟨tree, ensureDirectory_of_directory hthere, ⟨loc, hloc⟩, hthere⟩
    · have hnot : tree.isDirectory p ≠ true := by
        unfold isDirectory
        split
        · contradiction
        · simp
      refine Or.inr ⟨⟨e, p⟩, ?_⟩
      unfold ensureDirectory
      rw [hmade]
      exact if_neg fun hcond => hnot hcond.2.2
  rcases hreach : tree.locate p with e | loc <;> rw [← hreach]
  · exact hfails e (by simp only [makeDirectory, hreach])
  · cases hfind : tree.find? loc with
    | some e => exact hfails .alreadyThere (by simp only [makeDirectory, hreach, hfind])
    | none =>
      obtain ⟨_, _, rfl⟩ := locate_eq_ok_iff.mp hreach
      obtain ⟨tree', hensured, hentry⟩ :=
        ensureDirectory_of_locate hreach fun bytes => by rw [hfind]; simp
      exact Or.inl ⟨tree', hensured, ⟨_, hreach⟩, hentry⟩

section Outer

variable {n : Nat} {fault : FileFault}

theorem entryAt_of_ensureDirectory (h : ensureDirectory p tree = .ok () tree') :
    (∃ loc, tree.locate p = .ok loc) ∧ tree'.entryAt p = .ok .directory := by
  rcases ensureDirectory_cases p tree with ⟨s, hok, hloc, hentry⟩ | ⟨fault, hfails⟩
  · cases h.symm.trans hok
    exact ⟨hloc, hentry⟩
  · cases h.symm.trans hfails

theorem eq_of_ensureDirectory_error (h : ensureDirectory p tree = .error fault tree') :
    tree' = tree ∧ tree.entryAt p ≠ .ok .directory := by
  rcases ensureDirectory_cases p tree with ⟨s, hok, _⟩ | ⟨fault', hfails⟩
  · cases h.symm.trans hok
  · cases h.symm.trans hfails
    refine ⟨rfl, fun hdirectory => ?_⟩
    cases h.symm.trans (ensureDirectory_of_directory hdirectory)

/-- **How a directory is made**: at once, or after those above it, which may fail already. -/
theorem makeOuter_succ_cases (p : Path) (n : Nat) (tree : FileTree) :
    makeOuter p (n + 1) tree = ensureDirectory (outer p (n + 1)) tree ∨
    (∃ between, makeOuter p n tree = .ok () between ∧
      makeOuter p (n + 1) tree = ensureDirectory (outer p (n + 1)) between) ∨
    ∃ fault tree', makeOuter p n tree = .error fault tree' ∧
      makeOuter p (n + 1) tree = .error fault tree' := by
  cases hfirst : ensureDirectory (outer p (n + 1)) tree with
  | ok u tree' =>
    refine Or.inl ?_
    unfold makeOuter
    rw [hfirst]
  | error cause tree' =>
    obtain ⟨rfl, _⟩ := eq_of_ensureDirectory_error hfirst
    by_cases hmissing : cause.error = .missing
    · refine Or.inr ?_
      cases habove : makeOuter p n tree' with
      | ok u between =>
        refine Or.inl ⟨between, rfl, ?_⟩
        unfold makeOuter
        rw [hfirst]
        dsimp only
        rw [if_pos hmissing, habove]
      | error fault tree'' =>
        refine Or.inr ⟨fault, tree'', rfl, ?_⟩
        unfold makeOuter
        rw [hfirst]
        dsimp only
        rw [if_pos hmissing, habove]
    · refine Or.inl ?_
      unfold makeOuter
      rw [hfirst]
      exact if_neg hmissing

/-- **The directory that was made is there.** -/
theorem entryAt_of_makeOuter (h : makeOuter p n tree = .ok () tree') :
    tree'.entryAt (outer p n) = .ok .directory := by
  cases n with
  | zero => exact (entryAt_of_ensureDirectory h).2
  | succ n =>
    rcases makeOuter_succ_cases p n tree with hone | ⟨between, _, hone⟩ | ⟨_, _, _, hfails⟩
    · exact (entryAt_of_ensureDirectory (hone.symm.trans h)).2
    · exact (entryAt_of_ensureDirectory (hone.symm.trans h)).2
    · cases hfails.symm.trans h

/-- Where neither a directory nor those above it can be made, a further attempt changes nothing. -/
theorem makeOuter_succ_error (hfails : ensureDirectory (outer p (n + 1)) tree = .error fault tree)
    (hsettled : stateLeft (makeOuter p n tree) = tree) :
    ∃ fault', makeOuter p (n + 1) tree = .error fault' tree := by
  rcases makeOuter_succ_cases p n tree with hone | ⟨between, habove, hone⟩ | ⟨fault', s, habove, hone⟩
  · exact ⟨fault, hone.trans hfails⟩
  · rw [habove] at hsettled
    cases hsettled
    exact ⟨fault, hone.trans hfails⟩
  · rw [habove] at hsettled
    cases hsettled
    exact ⟨fault', hone⟩

/-- **After a fault the directory is not there**, and a second attempt fails in the same tree. -/
theorem makeOuter_error_again (hn : n ≤ p.parts.length)
    (h : makeOuter p n tree = .error fault tree') :
    tree'.entryAt (outer p n) ≠ .ok .directory ∧
      ∃ fault', makeOuter p n tree' = .error fault' tree' := by
  induction n generalizing tree tree' fault with
  | zero =>
    obtain ⟨rfl, hnot⟩ := eq_of_ensureDirectory_error h
    exact ⟨hnot, fault, h⟩
  | succ n ih =>
    rcases makeOuter_succ_cases p n tree with hone | ⟨between, habove, hone⟩ | ⟨_, _, habove, hone⟩
    · obtain ⟨rfl, hnot⟩ := eq_of_ensureDirectory_error (hone.symm.trans h)
      exact ⟨hnot, fault, h⟩
    · have hlast := hone.symm.trans h
      obtain ⟨rfl, hnot⟩ := eq_of_ensureDirectory_error hlast
      refine ⟨hnot, makeOuter_succ_error hlast ?_⟩
      rw [makeOuter_of_directory (entryAt_of_makeOuter habove)]
      rfl
    · cases hone.symm.trans h
      obtain ⟨hnot, fault', hagain⟩ := ih (Nat.le_of_succ_le hn) habove
      -- what would lead further leads through the directory that is not there
      rcases ensureDirectory_cases (outer p (n + 1)) tree' with ⟨_, _, ⟨loc, hloc⟩, _⟩ | ⟨_, hfails⟩
      · have hshort : n < (outer p (n + 1)).parts.length := by
          rw [parts_outer, List.length_take_of_le hn]
          exact Nat.lt_succ_self n
        have hdirectory := entryAt_outer_of_locate hshort hloc
        rw [outer_outer p (Nat.le_succ n)] at hdirectory
        exact absurd hdirectory hnot
      · refine ⟨(eq_of_ensureDirectory_error hfails).2, makeOuter_succ_error hfails ?_⟩
        rw [hagain]
        rfl

end Outer

/-- **A text that was tried to be written** is not written better a second time. -/
theorem writeText_again (p : Path) (text : String) (tree : FileTree) :
    SameEnd (writeText p text (stateLeft (writeText p text tree))) (writeText p text tree) := by
  cases hwrite : writeText p text tree with
  | ok u tree' =>
    have hholds := (written_of_writeText hwrite).holds (p, text) (List.mem_singleton_self _)
    have hagain : writeText p text tree' = .ok () tree' := writeText_of_holds hholds
    show SameEnd (writeText p text tree') _
    rw [hagain]
    exact .ok () tree'
  | error fault tree' =>
    suffices hagain : ∃ fault', writeText p text tree' = .error fault' tree' by
      obtain ⟨fault', hagain⟩ := hagain
      show SameEnd (writeText p text tree') _
      rw [hagain]
      exact .error fault' fault tree'
    rw [writeText_eq] at hwrite ⊢
    cases hmade : makeDirectories p.parent tree with
    | error cause between =>
      rw [hmade] at hwrite
      cases hwrite
      obtain ⟨_, fault', hagain⟩ := makeOuter_error_again (Nat.le_refl _) hmade
      have hagain' : makeDirectories p.parent tree' = .error fault' tree' := hagain
      exact ⟨fault', by rw [hagain']⟩
    | ok u between =>
      rw [hmade] at hwrite
      have hsettled : makeDirectories p.parent between = .ok () between :=
        makeOuter_of_directory (entryAt_of_makeOuter hmade)
      rcases writeFile_cases p text between with ⟨s, hok, _⟩ | ⟨e, hfails⟩
      · cases hok.symm.trans hwrite
      · cases hfails.symm.trans hwrite
        exact ⟨⟨e, p⟩, by rw [hsettled]; exact hfails⟩

end FileTree

end SampleSchema
