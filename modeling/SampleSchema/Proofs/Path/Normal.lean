import Mathlib.Data.List.Induction
import SampleSchema.Proofs.Path

/-!
# Paths without ways back

In a path `..` leads back over the name in front of it. The NORMAL form of a path has neither of the
two (`Path.normal`): what is left of `..` stands at the beginning, where there is no name to lead
back over, and only in a relative path, as nothing is above a root (`Path.exists_parts_normal`).

A relative path leads from everywhere to where its normal form leads (`Path.normal_join_normal`). So
two relative paths lead to the same place from everywhere exactly if they have one normal form
(`Path.forall_normal_join_iff`); and where two files of one name lie in the same place, their
directories do (`Path.normal_child_iff`).
-/

namespace SampleSchema

namespace Path

/-! ## 1. Ways -/

/-- One name further on a way that has a beginning. The names so far are in reverse. -/
def advance (root : PathRoot) (way : List String) (part : String) : List String :=
  if part = ".." then
    match way with
    | [] => if root = .relative then [".."] else []
    | last :: before => if last = ".." then ".." :: last :: before else before
  else part :: way

/-- A way that goes on along some names. -/
def follow (root : PathRoot) (way parts : List String) : List String :=
  parts.foldl (advance root) way

section Root

variable (root : PathRoot) (way : List String)

theorem advance_name {part : String} (h : part ≠ "..") : advance root way part = part :: way :=
  if_neg h

theorem advance_back {last : String} (h : last ≠ "..") :
    advance root (last :: way) ".." = way := by
  show (if last = ".." then ".." :: last :: way else way) = way
  exact if_neg h

theorem follow_append (parts more : List String) :
    follow root way (parts ++ more) = follow root (follow root way parts) more :=
  List.foldl_append

theorem follow_concat (parts : List String) (part : String) :
    follow root way (parts ++ [part]) = advance root (follow root way parts) part :=
  follow_append root way parts [part]

/-- Along two names and back over both. -/
theorem follow_there_and_back {outer inner : String} (houter : outer ≠ "..") (hinner : inner ≠ "..")
    (more : List String) :
    follow root way (outer :: inner :: ".." :: ".." :: more) = follow root way more := by
  have hback : advance root (advance root (advance root (advance root way outer) inner) "..") ".." =
      way := by
    rw [advance_name root way houter, advance_name root _ hinner, advance_back root _ hinner,
      advance_back root _ houter]
  exact congrArg (follow root · more) hback

/-- A way holds nothing new but the name that it went along. -/
theorem mem_of_mem_advance {way : List String} {part name : String}
    (h : name ∈ advance root way part) : name ∈ way ∨ name = part := by
  unfold advance at h
  split at h
  · rename_i hback
    subst hback
    split at h
    · split at h
      · exact .inr (List.mem_singleton.mp h)
      · cases h
    · split at h
      · exact (List.mem_cons.mp h).symm
      · exact .inl (List.mem_cons_of_mem _ h)
  · exact (List.mem_cons.mp h).symm

theorem mem_of_mem_follow {way parts : List String} {name : String}
    (h : name ∈ follow root way parts) : name ∈ way ∨ name ∈ parts := by
  induction parts generalizing way with
  | nil => exact .inl h
  | cons part rest ih =>
    rcases ih h with h | h
    · exact (mem_of_mem_advance root h).imp_right fun heq => List.mem_cons.mpr (.inl heq)
    · exact .inr (List.mem_cons_of_mem _ h)

/-- **Going back over names comes to the same** before a way is followed and while it is: what is
    left of it as a way of its own leads to the same place. -/
theorem follow_follow (parts : List String) :
    follow root way (follow .relative [] parts).reverse = follow root way parts := by
  induction parts using List.reverseRecOn with
  | nil => rfl
  | append_singleton parts part ih =>
    rw [follow_concat, follow_concat, ← ih]
    by_cases hpart : part = ".."
    · subst hpart
      -- the names that are left decide over what the last one leads back
      cases hleft : follow .relative [] parts with
      | nil => rfl
      | cons last before =>
        rw [List.reverse_cons, follow_concat]
        by_cases hlast : last = ".."
        · subst hlast
          show follow root way ((".." :: ".." :: before).reverse) = _
          rw [List.reverse_cons, List.reverse_cons, follow_concat, follow_concat]
        · rw [advance_back .relative before hlast, advance_name root _ hlast,
            advance_back root _ hlast]
    · rw [advance_name .relative _ hpart, List.reverse_cons, follow_concat]

/-- A way that leads back at its beginning only, and there only if it has no root. -/
def IsStraight (way : List String) : Prop :=
  ∃ names n, way = names ++ List.replicate n ".." ∧ ".." ∉ names ∧ (n = 0 ∨ root = .relative)

theorem isStraight_advance {way : List String} (h : IsStraight root way) (part : String) :
    IsStraight root (advance root way part) := by
  obtain ⟨names, n, rfl, hnames, hn⟩ := h
  by_cases hpart : part = ".."
  · subst hpart
    cases names with
    | nil =>
      cases n with
      | zero =>
        by_cases hroot : root = .relative
        · exact ⟨[], 1, if_pos hroot, hnames, .inr hroot⟩
        · exact ⟨[], 0, if_neg hroot, hnames, .inl rfl⟩
      | succ n => exact ⟨[], n + 2, rfl, hnames, hn.imp_left nofun⟩
    | cons last before =>
      obtain ⟨hlast, hbefore⟩ := not_or.mp (List.mem_cons.not.mp hnames)
      exact ⟨before, n, advance_back root _ (Ne.symm hlast), hbefore, hn⟩
  · refine ⟨part :: names, n, advance_name root _ hpart, ?_, hn⟩
    exact List.not_mem_cons_of_ne_of_not_mem (Ne.symm hpart) hnames

theorem isStraight_follow {way : List String} (h : IsStraight root way) (parts : List String) :
    IsStraight root (follow root way parts) := by
  induction parts generalizing way with
  | nil => exact h
  | cons part rest ih => exact ih (isStraight_advance root h part)

end Root

/-! ## 2. Normal forms -/

/-- **The normal form of a path.** -/
def normal (p : Path) : Path where
  root := p.root
  parts := (follow p.root [] p.parts).reverse
  isPathPart part h :=
    p.isPathPart part ((mem_of_mem_follow p.root (List.mem_reverse.mp h)).resolve_left nofun)

/-- **A normal form leads back at its beginning only**, and not at all from a root. -/
theorem exists_parts_normal (p : Path) : ∃ n names,
    p.normal.parts = List.replicate n ".." ++ names ∧ ".." ∉ names ∧
      (p.root ≠ .relative → n = 0) := by
  have hstart : IsStraight p.root [] := ⟨[], 0, rfl, nofun, .inl rfl⟩
  obtain ⟨names, n, hway, hnames, hn⟩ := isStraight_follow p.root hstart p.parts
  refine ⟨n, names.reverse, ?_, fun hmem => hnames (List.mem_reverse.mp hmem),
    fun hroot => hn.resolve_right hroot⟩
  show (follow p.root [] p.parts).reverse = _
  rw [hway, List.reverse_append, List.reverse_replicate]

section Child

variable {name : String} (hname : IsPathPart name) (hback : name ≠ "..")
include hname hback

/-- A name at the end stays there. -/
theorem normal_child (p : Path) : (p.child name).normal = p.normal.child name := by
  refine eq_of_parts ?_ ?_
  · exact (root_child p hname).trans (root_child p.normal hname).symm
  · have hparts : (p.child name).normal.parts =
        (follow (p.child name).root [] (p.child name).parts).reverse := rfl
    rw [hparts, root_child p hname, parts_child p hname, parts_child _ hname, follow_concat,
      advance_name _ _ hback, List.reverse_cons]
    rfl

/-- **Files of one name lie in the same place** exactly if their directories do. -/
theorem normal_child_iff (p q : Path) :
    (p.child name).normal = (q.child name).normal ↔ p.normal = q.normal := by
  rw [normal_child hname hback, normal_child hname hback]
  constructor
  · intro h
    have hparent := congrArg parent h
    rwa [parent_child _ hname, parent_child _ hname] at hparent
  · exact congrArg fun r : Path => r.child name

end Child

/-! ## 3. Relative paths -/

/-- **A relative path leads where its normal form leads**, from everywhere. -/
theorem normal_join_normal (base : Path) {p : Path} (hp : p.root = .relative) :
    (base.join p.normal).normal = (base.join p).normal := by
  obtain ⟨hroot, hparts⟩ := base.join_of_relative hp
  obtain ⟨hroot', hparts'⟩ := base.join_of_relative (p := p.normal) hp
  refine eq_of_parts (hroot'.trans hroot.symm) (congrArg List.reverse ?_)
  show follow (base.join p.normal).root [] (base.join p.normal).parts =
    follow (base.join p).root [] (base.join p).parts
  have hnormal : p.normal.parts = (follow .relative [] p.parts).reverse := by
    rw [← hp]
    rfl
  rw [hroot, hroot', hparts, hparts', follow_append, follow_append, hnormal, follow_follow]

/-- **Two relative paths lead to the same place from everywhere** exactly if they have one normal
    form. -/
theorem forall_normal_join_iff {p q : Path} (hp : p.root = .relative) (hq : q.root = .relative) :
    (∀ base : Path, (base.join p).normal = (base.join q).normal) ↔ p.normal = q.normal := by
  constructor
  · intro h
    -- where nothing is in front of them
    have hself : ∀ {r : Path}, r.root = .relative → (ofText ".").join r = r := by
      intro r hr
      obtain ⟨hroot, hparts⟩ := (ofText ".").join_of_relative hr
      exact eq_of_parts (hroot.trans hr.symm) hparts
    have hempty := h (ofText ".")
    rwa [hself hp, hself hq] at hempty
  · intro h base
    rw [← normal_join_normal base hp, h, normal_join_normal base hq]

end Path

end SampleSchema
