import SampleSchema.Path

/-!
# Paths and their texts

A path is known by its text: reading the text gives the path back (`Path.ofText_text`). So a path
survives every place that holds it as a text only. And it is known by where it begins and by its
names, which are those of both paths where one is put behind another (`Path.join_of_relative`).
-/

namespace SampleSchema

namespace Path

/-! ## 1. Names between slashes -/

/-- Names without a slash are cut apart at the slashes between them. -/
theorem segments_intercalate {names : List (List Char)} (hne : names ≠ [])
    (h : ∀ name ∈ names, '/' ∉ name) :
    segments (· == '/') (['/'].intercalate names) = names := by
  have hname : ∀ {name : List Char}, '/' ∉ name → ∀ c ∈ name, (c == '/') = false := by
    intro name hslash c hc
    refine beq_eq_false_iff_ne.mpr ?_
    rintro rfl
    exact hslash hc
  induction names with
  | nil => exact absurd rfl hne
  | cons name rest ih =>
    have hfirst := hname (h name List.mem_cons_self)
    cases rest with
    | nil =>
      rw [List.intercalate_singleton]
      exact segments_eq_singleton hfirst
    | cons next rest =>
      have hrest := ih (List.cons_ne_nil _ _) fun n hn => h n (List.mem_cons_of_mem _ hn)
      rw [List.intercalate_cons_cons, List.append_assoc, List.singleton_append,
        segments_append_cons hfirst (by decide), hrest]

/-- A slash at the beginning names nothing. -/
theorem partsOf_cons_slash (cs : List Char) : partsOf ('/' :: cs) = partsOf cs := by
  have hsegments : segments (· == '/') ('/' :: cs) = [] :: segments (· == '/') cs := rfl
  unfold partsOf
  rw [hsegments, List.filter_cons_of_neg (by simp)]

/-- The names of a path are read from their text. -/
theorem partsOf_intercalate {parts : List String} (h : ∀ part ∈ parts, IsPathPart part) :
    partsOf ("/".intercalate parts).toList = parts := by
  have htext : ("/".intercalate parts).toList = ['/'].intercalate (parts.map String.toList) :=
    String.toList_intercalate
  rw [htext]
  by_cases hne : parts = []
  · subst hne
    rfl
  · have hsegments : segments (· == '/') (['/'].intercalate (parts.map String.toList)) =
        parts.map String.toList := by
      refine segments_intercalate (by simp [hne]) fun name hname => ?_
      obtain ⟨part, hpart, rfl⟩ := List.mem_map.mp hname
      exact (h part hpart).2.2
    have hkept : ∀ name ∈ parts.map String.toList, decide (name ≠ [] ∧ name ≠ ['.']) = true := by
      intro name hname
      obtain ⟨part, hpart, rfl⟩ := List.mem_map.mp hname
      obtain ⟨hempty, hdot, _⟩ := h part hpart
      refine decide_eq_true ⟨fun e => hempty ?_, fun e => hdot ?_⟩
      · exact String.toList_inj.mp e
      · exact String.toList_inj.mp e
    unfold partsOf
    rw [hsegments, List.filter_eq_self.mpr hkept, List.map_map]
    simp

/-! ## 2. Paths -/

/-- The names of a path do not begin with a slash. -/
theorem head?_intercalate {parts : List String} (h : ∀ part ∈ parts, IsPathPart part) :
    ("/".intercalate parts).toList.head? ≠ some '/' := by
  rw [String.toList_intercalate]
  cases parts with
  | nil => simp [List.intercalate]
  | cons part rest =>
    obtain ⟨hempty, _, hslash⟩ := h part List.mem_cons_self
    cases hpart : part.toList with
    | nil => exact absurd (String.toList_inj.mp hpart) hempty
    | cons c more =>
      have hc : c ≠ '/' := fun hc => hslash (hpart ▸ hc ▸ List.mem_cons_self)
      cases rest <;> simp [hpart, hc]

/-- A beginning is read from its slashes, if no other slash follows them. -/
theorem rootOf_append (root : PathRoot) {cs : List Char} (h : cs.head? ≠ some '/') :
    PathRoot.ofText (root.text.toList ++ cs) = root := by
  cases cs with
  | nil => cases root <;> rfl
  | cons c more =>
    have hc : c ≠ '/' := fun hc => h (congrArg some hc)
    cases root with
    | relative => simp [PathRoot.text, PathRoot.ofText, hc]
    | slash => simp [PathRoot.text, PathRoot.ofText, hc]
    | doubleSlash => simp [PathRoot.text, PathRoot.ofText, hc]

/-- The slashes of a beginning name nothing. -/
theorem partsOf_root_append (root : PathRoot) (cs : List Char) :
    partsOf (root.text.toList ++ cs) = partsOf cs := by
  cases root with
  | relative => rfl
  | slash => exact partsOf_cons_slash cs
  | doubleSlash => exact (partsOf_cons_slash _).trans (partsOf_cons_slash cs)

/-- **A path is read from its text.** -/
theorem ofText_text (p : Path) : ofText p.text = p := by
  obtain ⟨root, parts, hparts⟩ := p
  have hsame : ∀ {text : String}, PathRoot.ofText text.toList = root → partsOf text.toList = parts →
      ofText text = ⟨root, parts, hparts⟩ := by
    rintro text rfl rfl
    rfl
  unfold text
  split
  · rename_i hempty
    obtain ⟨rfl, rfl⟩ := hempty
    exact hsame rfl rfl
  · refine hsame ?_ ?_
    · rw [String.toList_append]
      exact rootOf_append root (head?_intercalate hparts)
    · rw [String.toList_append, partsOf_root_append]
      exact partsOf_intercalate hparts

/-! ## 3. Paths behind paths -/

/-- A path is known by where it begins and by its names. -/
theorem eq_of_parts {p q : Path} (hroot : p.root = q.root) (hparts : p.parts = q.parts) : p = q := by
  cases p
  cases q
  cases hroot
  cases hparts
  rfl

/-- A name alone is the path that holds nothing but this name. -/
theorem ofText_of_isPathPart {text : String} (h : IsPathPart text) :
    (ofText text).root = .relative ∧ (ofText text).parts = [text] := by
  have htext : (⟨.relative, [text], List.forall_mem_singleton.mpr h⟩ : Path).text = text := by
    simp [Path.text, PathRoot.text]
  have hpath := ofText_text ⟨.relative, [text], List.forall_mem_singleton.mpr h⟩
  rw [htext] at hpath
  rw [hpath]
  exact ⟨rfl, rfl⟩

theorem root_child (base : Path) {text : String} (h : IsPathPart text) :
    (base.child text).root = base.root := by
  unfold child join
  rw [if_pos (ofText_of_isPathPart h).1]

theorem parts_child (base : Path) {text : String} (h : IsPathPart text) :
    (base.child text).parts = base.parts ++ [text] := by
  obtain ⟨hroot, hparts⟩ := ofText_of_isPathPart h
  unfold child join
  rw [if_pos hroot, ← hparts]

/-- A name of a path that is put behind another one is its last name. -/
theorem name?_child (base : Path) {text : String} (h : IsPathPart text) :
    (base.child text).name? = some text := by
  unfold name?
  rw [parts_child base h, List.getLast?_concat]

theorem parent_child (base : Path) {text : String} (h : IsPathPart text) :
    (base.child text).parent = base := by
  refine eq_of_parts (root_child base h) ?_
  show (base.child text).parts.dropLast = base.parts
  rw [parts_child base h, List.dropLast_concat]

section Relative

variable (base : Path) {p : Path} (hp : p.root = .relative)
include hp

theorem join_of_relative :
    (base.join p).root = base.root ∧ (base.join p).parts = base.parts ++ p.parts := by
  unfold join
  rw [if_pos hp]
  exact ⟨rfl, rfl⟩

/-- Paths may be put behind one another from either end. -/
theorem join_join {q : Path} (hq : q.root = .relative) :
    base.join (p.join q) = (base.join p).join q := by
  obtain ⟨hroot, hparts⟩ := p.join_of_relative hq
  obtain ⟨hroot', hparts'⟩ := base.join_of_relative hp
  obtain ⟨hbehind, hnames⟩ := base.join_of_relative (hroot.trans hp)
  obtain ⟨hbehind', hnames'⟩ := (base.join p).join_of_relative hq
  refine eq_of_parts ?_ ?_
  · rw [hbehind, hbehind', hroot']
  · rw [hnames, hnames', hparts, hparts', List.append_assoc]

theorem join_child {text : String} (h : IsPathPart text) :
    base.join (p.child text) = (base.join p).child text :=
  base.join_join hp (ofText_of_isPathPart h).1

/-- **What is put behind a directory is seen from there.** -/
theorem relativeTo?_join : (base.join p).relativeTo? base = some p := by
  obtain ⟨hroot, hparts⟩ := base.join_of_relative hp
  have hprefix : base.parts.isPrefixOf (base.join p).parts = true := by
    rw [hparts]
    exact List.isPrefixOf_iff_prefix.mpr (List.prefix_append _ _)
  unfold relativeTo?
  rw [if_pos ⟨hroot, hprefix⟩]
  refine congrArg some (eq_of_parts hp.symm ?_)
  show (base.join p).parts.drop base.parts.length = p.parts
  rw [hparts, List.drop_left]

end Relative

end Path

end SampleSchema
