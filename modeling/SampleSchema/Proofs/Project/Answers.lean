import SampleSchema.Proofs.FileTree.Making
import SampleSchema.Proofs.Project.Refusal

/-!
# What an attempt to write comes to

The ANSWER of an action is what it gives without the tree that it leaves. Texts whose ways are clear,
and of which none lies on the way to another, are written up to the first that is obstructed from
the start (`Project.Ready.tail`), so the answer depends only on which of them are: trees that agree on
that give the same answer (`Project.answer_writeTexts`). The same is said of asking for the files
(`Project.present_congr`, `Project.present_error_iff`).
-/

namespace SampleSchema

/-- What an action gives, without the state that it leaves. -/
def answer {ε σ α : Type} : EStateM.Result ε σ α → Except ε α
  | .ok a _ => .ok a
  | .error e _ => .error e

namespace Project

open FileTree

/-! ## 1. Texts that can be written one after the other -/

/-- **Texts with clear ways.** A goal that lies on the way to one of them lies on its own way. -/
structure Ready (tree : FileTree) (texts : List (Path × String)) : Prop where
  fits : ∀ t ∈ texts, t.1.Fits
  clear : ∀ t ∈ texts, ∀ n < t.1.parts.length, ∀ bytes,
    tree.find? (tree.stop t.1 n) ≠ some (.file bytes)
  own : ∀ t ∈ texts, ∀ u ∈ texts, ∀ n < u.1.parts.length, tree.stop u.1 n = tree.goal t.1 →
    ∃ m < t.1.parts.length, tree.stop t.1 m = tree.goal t.1

/-- **After the first text the others are as ready as before**, and obstructed where they were. -/
theorem Ready.tail {tree tree' : FileTree} {p : Path} {text : String} {rest : List (Path × String)}
    (h : Ready tree ((p, text) :: rest))
    (hwrite : FileTree.writeText p text tree = .ok () tree') :
    Ready tree' rest ∧ ∀ t ∈ rest, (tree'.Obstructed t.1 ↔ tree.Obstructed t.1) := by
  have hwritten := written_of_writeText hwrite
  have hfree : ¬ tree.Obstructed p := (exists_writeText_iff.mp ⟨tree', hwrite⟩).free
  have hstop := fun q n => stop_of_here hwritten.here q n
  have hgoal := fun q => goal_of_here hwritten.here q
  have hmem : ∀ {t}, t ∈ rest → t ∈ (p, text) :: rest := fun ht => List.mem_cons_of_mem _ ht
  refine ⟨⟨fun t ht => h.fits t (hmem ht), fun t ht n hn bytes hfile => ?_,
    fun t ht u hu n hn heq => ?_⟩, fun t ht => hwritten.obstructed_iff ?_⟩
  · rw [hstop] at hfile
    by_cases hthere : tree.stop t.1 n = tree.goal p
    · -- the text would stand on the way to another, and so on its own
      exact hfree (Or.inr (h.own _ List.mem_cons_self t (hmem ht) n hn hthere))
    · refine h.clear t (hmem ht) n hn bytes ((hwritten.find?_file_iff ?_ bytes).mp hfile)
      intro u hu hloc
      rw [List.mem_singleton.mp hu] at hloc
      obtain ⟨_, _, heq⟩ := locate_eq_ok_iff.mp hloc
      exact hthere (heq.trans (hgoal p))
  · rw [hstop, hgoal] at heq
    obtain ⟨m, hm, hown⟩ := h.own t (hmem ht) u (hmem hu) n hn heq
    exact ⟨m, hm, by rw [hstop, hgoal, hown]⟩
  · rw [List.forall_mem_singleton]
    exact fun n hn heq => h.own t (hmem ht) _ List.mem_cons_self n hn heq

/-- **Only what is obstructed decides how writing ends.** -/
theorem answer_writeTexts {texts : List (Path × String)} {tree other : FileTree}
    (h : Ready tree texts) (h' : Ready other texts)
    (hsame : ∀ t ∈ texts, (tree.Obstructed t.1 ↔ other.Obstructed t.1)) :
    answer (writeTexts texts tree) = answer (writeTexts texts other) := by
  induction texts generalizing tree other with
  | nil => rfl
  | cons t rest ih =>
    obtain ⟨p, text⟩ := t
    have hfirst := List.mem_cons_self (a := (p, text)) (l := rest)
    have hiff := hsame _ hfirst
    rw [writeTexts_cons, writeTexts_cons]
    rcases writeText_cases (h.fits _ hfirst) (h.clear _ hfirst) text with
      ⟨hfree, tree', hwrite⟩ | ⟨hobstructed, tree', hwrite⟩
    · rcases writeText_cases (h'.fits _ hfirst) (h'.clear _ hfirst) text with
        ⟨_, other', hwrite'⟩ | ⟨hobstructed', _⟩
      · obtain ⟨hready, hkept⟩ := h.tail hwrite
        obtain ⟨hready', hkept'⟩ := h'.tail hwrite'
        rw [hwrite, hwrite']
        refine ih hready hready' fun u hu => ?_
        rw [hkept u hu, hkept' u hu]
        exact hsame u (List.mem_cons_of_mem _ hu)
      · exact absurd (hiff.mpr hobstructed') hfree
    · rcases writeText_cases (h'.fits _ hfirst) (h'.clear _ hfirst) text with
        ⟨hfree', _⟩ | ⟨_, other', hwrite'⟩
      · exact absurd (hiff.mp hobstructed) hfree'
      · rw [hwrite, hwrite']
        rfl

/-! ## 2. Files that are asked for -/

theorem present_congr {tree other : FileTree} {paths : List Path}
    (h : ∀ p ∈ paths, tree.isThere p = other.isThere p) :
    present tree paths = present other paths := by
  induction paths with
  | nil => rfl
  | cons p rest ih =>
    unfold present
    rw [h p List.mem_cons_self, ih fun q hq => h q (List.mem_cons_of_mem _ hq)]

/-- Asking fails in two trees alike if each question does. -/
theorem present_error_iff {tree other : FileTree} {paths : List Path}
    (h : ∀ p ∈ paths, ∀ fault, tree.isThere p = .error fault ↔ other.isThere p = .error fault)
    (fault : FileFault) :
    present tree paths = .error fault ↔ present other paths = .error fault := by
  induction paths with
  | nil => simp [present]
  | cons p rest ih =>
    have hp := h p List.mem_cons_self
    have hrest := ih fun q hq => h q (List.mem_cons_of_mem _ hq)
    unfold present
    cases htree : tree.isThere p with
    | error cause =>
      rw [(hp cause).mp htree]
    | ok b =>
      cases hother : other.isThere p with
      | error cause =>
        rw [(hp cause).mpr hother] at htree
        cases htree
      | ok b' =>
        dsimp only
        cases hmore : present tree rest <;> cases hmore' : present other rest <;>
          simp_all

theorem obstacle?_congr {project : Project} {tree other : FileTree} {typeName : String}
    (force : Bool)
    (h : ∀ p ∈ (project.targets typeName).all, tree.isThere p = other.isThere p) :
    project.obstacle? tree typeName force = project.obstacle? other typeName force := by
  unfold obstacle? existing
  rw [present_congr h]

/-- **Where files are to be replaced**, only a question without an answer is an obstacle. -/
theorem obstacle?_forced {project : Project} {tree : FileTree} {typeName : String}
    {files : List Path} (h : present tree (project.targets typeName).all = .ok files) :
    project.obstacle? tree typeName true = none := by
  unfold obstacle? existing
  rw [h]
  cases files <;> rfl

theorem obstacle?_forced_congr {project : Project} {tree other : FileTree} {typeName : String}
    (h : ∀ p ∈ (project.targets typeName).all, ∀ fault,
      tree.isThere p = .error fault ↔ other.isThere p = .error fault) :
    project.obstacle? tree typeName true = project.obstacle? other typeName true := by
  have hiff := present_error_iff h
  cases hbefore : present tree (project.targets typeName).all with
  | error fault =>
    have hafter := (hiff fault).mp hbefore
    unfold obstacle? existing
    rw [hbefore, hafter]
  | ok files =>
    cases hafter : present other (project.targets typeName).all with
    | error fault =>
      rw [(hiff fault).mpr hafter] at hbefore
      cases hbefore
    | ok files' => rw [obstacle?_forced hbefore, obstacle?_forced hafter]

/-- Without an obstacle every question has an answer. -/
theorem exists_isThere_of_obstacle? {project : Project} {tree : FileTree} {typeName : String}
    {force : Bool} (h : project.obstacle? tree typeName force = none) {p : Path}
    (hp : p ∈ (project.targets typeName).all) : ∃ b, tree.isThere p = .ok b := by
  by_contra hnone
  obtain ⟨q, _, _, hpresent⟩ := present_of_isLong hp fun b hb => hnone ⟨b, hb⟩
  unfold obstacle? existing at h
  rw [hpresent] at h
  cases h

/-- **The answer of an attempt**: the obstacle, or else the answer of writing. -/
theorem answer_write_congr {project : Project} {g : Generation} {force : Bool}
    {tree other : FileTree}
    (hobstacle : project.obstacle? tree g.typeName force =
      project.obstacle? other g.typeName force)
    (hall : project.obstacle? tree g.typeName force = none →
      answer (writeTexts (project.contents g) tree) = answer (writeTexts (project.contents g) other)) :
    answer (project.write g force tree) = answer (project.write g force other) := by
  rw [write_eq, write_eq, ← hobstacle]
  cases hclear : project.obstacle? tree g.typeName force with
  | some fault => rfl
  | none =>
    have hsame := hall hclear
    dsimp only
    cases hwrite : writeTexts (project.contents g) tree <;>
      cases hwrite' : writeTexts (project.contents g) other <;>
      rw [hwrite, hwrite'] at hsame <;> cases hsame <;> rfl

end Project

end SampleSchema
