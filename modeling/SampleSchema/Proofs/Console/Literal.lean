import Mathlib.Data.List.TakeWhile
import SampleSchema.Console.Report
import SampleSchema.Proofs.Lists

/-!
# Literal text is printed

Whatever a text from outside holds, the messages and tables that it is put into are printed: making
it literal leaves no tag that could close what is not open. `Markup.Renders` says that markup is
printed from a certain state of its reader on, and text is put in front of such markup piece by
piece:

* `Markup.renders_escape_append`: any text, made literal;
* `Markup.renders_opening_append`, `Markup.renders_closing`: the tags of a style around it.

Backslashes carry over from one piece to the next, so what stands behind a literal text has to be
printed whatever number of them comes before it. A closing tag is (`Markup.renders_closing`): behind
an odd number of them it is literal itself.
-/

namespace SampleSchema

namespace Markup

/-! ## 1. Brackets -/

theorem closes_cons (c : Char) (rest : List Char) :
    closes (c :: rest) = if c = '[' then false else if c = ']' then true else closes rest := by
  unfold closes
  by_cases hopen : c = '['
  · subst hopen
    rfl
  · by_cases hclose : c = ']'
    · subst hclose
      rfl
    · simp [hopen, hclose]

/-- What opens no tag on its own opens none behind a text that does not close it either. -/
theorem opensTag_eq_false_of_closes {cs : List Char} (h : closes cs = false) :
    opensTag cs = false := by
  cases cs with
  | nil => rfl
  | cons c rest =>
    show (isTagStart c && closes rest) = false
    rw [closes_cons] at h
    by_cases hopen : c = '['
    · subst hopen
      rfl
    · rw [if_neg hopen] at h
      split at h
      · cases h
      · rw [h, Bool.and_false]

/-- Only a bracket further on could make a difference to a text. -/
theorem closes_append {after : List Char} (h : closes after = false) (cs : List Char) :
    closes (cs ++ after) = closes cs := by
  induction cs with
  | nil => exact h
  | cons c cs ih => rw [List.cons_append, closes_cons, closes_cons, ih]

theorem opensTag_append {after : List Char} (h : closes after = false) (cs : List Char) :
    opensTag (cs ++ after) = opensTag cs := by
  cases cs with
  | nil => exact opensTag_eq_false_of_closes h
  | cons c cs =>
    show (isTagStart c && closes (cs ++ after)) = (isTagStart c && closes cs)
    rw [closes_append h]

/-- A text without brackets closes nothing. -/
theorem closes_of_plain {cs : List Char} (h : ∀ c ∈ cs, c ≠ '[' ∧ c ≠ ']') :
    closes cs = false := by
  induction cs with
  | nil => rfl
  | cons c cs ih =>
    obtain ⟨hopen, hclose⟩ := h c List.mem_cons_self
    rw [closes_cons, if_neg hopen, if_neg hclose]
    exact ih fun d hd => h d (List.mem_cons_of_mem _ hd)

theorem closes_backslashes_append (n : Nat) (cs : List Char) :
    closes (backslashes n ++ cs) = closes cs := by
  induction n with
  | zero => rfl
  | succ n ih =>
    show closes ('\\' :: (backslashes n ++ cs)) = closes cs
    rw [closes_cons, if_neg (by decide), if_neg (by decide), ih]

/-- Making a text literal leaves its brackets in their order. -/
theorem closes_escapeFrom (k : Nat) (cs : List Char) : closes (escapeFrom k cs) = closes cs := by
  induction cs generalizing k with
  | nil =>
    have h := closes_backslashes_append k []
    rw [List.append_nil] at h
    exact h
  | cons c rest ih =>
    unfold escapeFrom
    split
    · rename_i hslash
      rw [ih, closes_cons, hslash, if_neg (by decide), if_neg (by decide)]
    · split
      · rw [closes_backslashes_append, closes_cons, closes_cons, ih]
      · rw [closes_backslashes_append, closes_cons, closes_cons, ih]

/-- A text made literal behind backslashes begins with one. -/
theorem exists_escapeFrom_succ (k : Nat) (cs : List Char) :
    ∃ more, escapeFrom (k + 1) cs = '\\' :: more := by
  induction cs generalizing k with
  | nil => exact ⟨backslashes k, rfl⟩
  | cons c rest ih =>
    unfold escapeFrom
    split
    · exact ih (k + 1)
    · split
      · exact ⟨_, rfl⟩
      · exact ⟨_, rfl⟩

/-- **What is a tag before a text is made literal is one after it**, and nothing else is. -/
theorem opensTag_escapeFrom (cs : List Char) : opensTag (escapeFrom 0 cs) = opensTag cs := by
  cases cs with
  | nil => rfl
  | cons c rest =>
    by_cases hslash : c = '\\'
    · obtain ⟨more, hmore⟩ := exists_escapeFrom_succ 0 rest
      have hescape : escapeFrom 0 (c :: rest) = '\\' :: more := by
        rw [escapeFrom, if_pos hslash, hmore]
      rw [hescape, hslash]
      rfl
    · by_cases htag : c = '[' ∧ opensTag rest = true
      · have hescape : escapeFrom 0 (c :: rest) = '\\' :: c :: escapeFrom 0 rest := by
          rw [escapeFrom, if_neg hslash, if_pos htag]
          rfl
        rw [hescape, htag.1]
        rfl
      · have hescape : escapeFrom 0 (c :: rest) = c :: escapeFrom 0 rest := by
          rw [escapeFrom, if_neg hslash, if_neg htag]
          rfl
        rw [hescape]
        show (isTagStart c && closes (escapeFrom 0 rest)) = (isTagStart c && closes rest)
        rw [closes_escapeFrom]

/-! ## 2. Text -/

/-- **Markup is printed**, behind a number of backslashes and with certain styles open, wherever it
    stands. -/
def Renders (opened : List String) (pending : Nat) (cs : List Char) : Prop :=
  ∀ position, ∃ printed, renderFrom position opened (.text pending) cs = .ok printed

section Text

variable {opened : List String} {cs rest : List Char}

theorem renders_nil (opened : List String) (pending : Nat) : Renders opened pending [] :=
  fun _ => ⟨_, rfl⟩

theorem renders_backslashes_append {pending n : Nat} (h : Renders opened (pending + n) rest) :
    Renders opened pending (backslashes n ++ rest) := by
  induction n generalizing pending with
  | zero => exact h
  | succ n ih =>
    have hmore : Renders opened (pending + 1) (backslashes n ++ rest) := by
      refine ih ?_
      rw [Nat.add_assoc, Nat.add_comm 1 n]
      exact h
    exact fun position => hmore (position + 1)

/-- A character is printed if it begins no tag, or if backslashes make it literal. -/
theorem Renders.cons (h : Renders opened 0 rest) {c : Char} {pending : Nat} (hc : c ≠ '\\')
    (htag : c = '[' → opensTag rest = true → pending % 2 = 1) :
    Renders opened pending (c :: rest) := by
  intro position
  obtain ⟨printed, hprinted⟩ := h (position + 1)
  unfold renderFrom
  simp only [hprinted, if_neg hc]
  split
  · rename_i hopen
    split
    · rename_i htag'
      rw [if_pos (htag hopen htag')]
      exact ⟨_, rfl⟩
    · exact ⟨_, rfl⟩
  · exact ⟨_, rfl⟩

theorem backslashes_succ_append (n : Nat) (cs : List Char) :
    backslashes (n + 1) ++ cs = backslashes n ++ '\\' :: cs := by
  unfold backslashes
  rw [List.replicate_succ', List.append_assoc]
  rfl

/-- **Text without brackets prints as it is.** -/
theorem renderFrom_of_plain (hcs : ∀ c ∈ cs, c ≠ '[') (position pending : Nat) :
    renderFrom position opened (.text pending) cs = .ok (backslashes pending ++ cs) := by
  induction cs generalizing position pending with
  | nil =>
    rw [List.append_nil]
    rfl
  | cons c cs ih =>
    have hmore := ih fun d hd => hcs d (List.mem_cons_of_mem _ hd)
    rw [renderFrom]
    by_cases hslash : c = '\\'
    · subst hslash
      rw [if_pos rfl, hmore, backslashes_succ_append]
    · rw [if_neg hslash, if_neg (hcs c List.mem_cons_self), hmore]
      show Except.ok (backslashes pending ++ [c] ++ cs) = _
      rw [List.append_assoc]
      rfl

/-- Text without brackets may stand in front. -/
theorem renders_append_of_plain (hcs : ∀ c ∈ cs, c ≠ '[')
    (h : ∀ pending, Renders opened pending rest) (pending : Nat) :
    Renders opened pending (cs ++ rest) := by
  induction cs generalizing pending with
  | nil => exact h pending
  | cons c cs ih =>
    have hmore := ih fun d hd => hcs d (List.mem_cons_of_mem _ hd)
    by_cases hslash : c = '\\'
    · subst hslash
      exact renders_backslashes_append (n := 1) (hmore (pending + 1))
    · exact (hmore 0).cons hslash fun hopen => absurd hopen (hcs c List.mem_cons_self)

/-- Text without brackets and backslashes may stand in front of anything. -/
theorem Renders.append_plain (h : Renders opened 0 rest) (hcs : ∀ c ∈ cs, c ≠ '[' ∧ c ≠ '\\') :
    Renders opened 0 (cs ++ rest) := by
  induction cs with
  | nil => exact h
  | cons c cs ih =>
    obtain ⟨hopen, hslash⟩ := hcs c List.mem_cons_self
    have hmore := ih fun d hd => hcs d (List.mem_cons_of_mem _ hd)
    exact hmore.cons hslash fun hopen' => absurd hopen' hopen

/-- **A text made literal** may stand in front of markup that is printed behind any number of
    backslashes and does not close a bracket of the text. -/
theorem renders_escapeFrom_append (hcloses : closes rest = false)
    (h : ∀ pending, Renders opened pending rest) (k : Nat) (cs : List Char) :
    Renders opened 0 (escapeFrom k cs ++ rest) := by
  induction cs generalizing k with
  | nil =>
    refine renders_backslashes_append ?_
    rw [Nat.zero_add]
    exact h k
  | cons c cs ih =>
    unfold escapeFrom
    split
    · exact ih (k + 1)
    · rename_i hslash
      have hmore : Renders opened 0 (escapeFrom 0 cs ++ rest) := ih 0
      split
      · -- the tag is behind an odd number of backslashes
        rw [List.append_assoc]
        refine renders_backslashes_append (hmore.cons hslash fun _ _ => ?_)
        omega
      · rename_i htag
        rw [List.append_assoc]
        refine renders_backslashes_append (hmore.cons hslash fun hopen hopens => ?_)
        rw [opensTag_append hcloses, opensTag_escapeFrom] at hopens
        exact absurd ⟨hopen, hopens⟩ htag

theorem guardEnd_cases (cs : List Char) : guardEnd cs = cs ∨ guardEnd cs = cs ++ ['\\'] := by
  unfold guardEnd
  split
  · exact Or.inl rfl
  · exact Or.inr rfl
  · exact Or.inl rfl

theorem renders_escape_append (hcloses : closes rest = false)
    (h : ∀ pending, Renders opened pending rest) (cs : List Char) :
    Renders opened 0 (escape cs ++ rest) := by
  unfold escape
  rcases guardEnd_cases (escapeFrom 0 cs) with hguard | hguard
  · rw [hguard]
    exact renders_escapeFrom_append hcloses h 0 cs
  · rw [hguard, List.append_assoc]
    have hcloses' : closes (['\\'] ++ rest) = false := by
      rw [List.singleton_append, closes_cons, if_neg (by decide), if_neg (by decide)]
      exact hcloses
    refine renders_escapeFrom_append hcloses' (fun pending => ?_) 0 cs
    exact renders_backslashes_append (n := 1) (h (pending + 1))

end Text

/-! ## 3. Styles -/

/-- Is a text a style by its name? It begins with a small letter and holds no bracket and no equals
    sign. -/
def isStyle (cs : List Char) : Bool :=
  (match cs with
    | c :: _ => 'a' ≤ c && c ≤ 'z'
    | [] => false) &&
  cs.all fun c => c ≠ '[' && c ≠ ']' && c ≠ '='

section Styles

variable {style rest : List Char} {opened : List String}

theorem exists_cons_of_isStyle (h : isStyle style = true) :
    ∃ c more, style = c :: more ∧ 'a' ≤ c ∧ c ≤ 'z' := by
  unfold isStyle at h
  cases style with
  | nil => cases h
  | cons c more =>
    have hc := (Bool.and_eq_true_iff.mp h).1
    obtain ⟨ha, hz⟩ := Bool.and_eq_true_iff.mp hc
    exact ⟨c, more, rfl, of_decide_eq_true ha, of_decide_eq_true hz⟩

theorem ne_of_isStyle (h : isStyle style = true) :
    ∀ c ∈ style, (c ≠ '[' ∧ c ≠ ']') ∧ c ≠ '=' := by
  intro c hc
  have hall := List.all_eq_true.mp (Bool.and_eq_true_iff.mp h).2 c hc
  simpa using hall

/-- Up to its closing bracket a tag is read. -/
theorem renderFrom_tag (position start : Nat) (opened : List String) (read : List Char)
    {tag : List Char} (htag : ∀ c ∈ tag, c ≠ ']') (rest : List Char) :
    renderFrom position opened (.tag start read) (tag ++ ']' :: rest) =
      match applyTag start (read.reverse ++ tag) opened with
      | .ok opened => renderFrom (position + tag.length + 1) opened (.text 0) rest
      | .error fault => .error fault := by
  induction tag generalizing position read with
  | nil =>
    rw [List.append_nil, List.nil_append, renderFrom, if_pos rfl]
    rfl
  | cons c tag ih =>
    have hread : (c :: read).reverse ++ tag = read.reverse ++ c :: tag := by
      rw [List.reverse_cons, List.append_assoc, List.singleton_append]
    rw [List.cons_append, renderFrom, if_neg (htag c List.mem_cons_self),
      ih _ _ fun d hd => htag d (List.mem_cons_of_mem _ hd), hread, List.length_cons]
    have hposition : position + 1 + tag.length + 1 = position + (tag.length + 1) + 1 := by omega
    rw [hposition]

theorem closes_tag (tag : List Char) (htag : ∀ c ∈ tag, c ≠ '[' ∧ c ≠ ']') (rest : List Char) :
    closes (tag ++ ']' :: rest) = true := by
  induction tag with
  | nil => rfl
  | cons c more ih =>
    obtain ⟨hopen, hclose⟩ := htag c List.mem_cons_self
    rw [List.cons_append, closes_cons, if_neg hopen, if_neg hclose]
    exact ih fun d hd => htag d (List.mem_cons_of_mem _ hd)

theorem tagName_of_isStyle (h : isStyle style = true) : tagName style = style := by
  have hall : style.takeWhile (· ≠ '=') = style :=
    List.takeWhile_eq_self_iff.mpr fun c hc => decide_eq_true (ne_of_isStyle h c hc).2
  exact hall

theorem applyTag_opening (position : Nat) (opened : List String) (h : isStyle style = true) :
    applyTag position style opened = .ok (styleName style :: opened) := by
  obtain ⟨c, more, rfl, ha, _⟩ := exists_cons_of_isStyle h
  have hc : c ≠ '/' := by
    rintro rfl
    exact absurd ha (by decide)
  unfold applyTag
  rw [tagName_of_isStyle h]
  split
  · rename_i heq
    exact absurd (List.cons.inj heq).1 hc
  · rfl

theorem applyTag_closing (position : Nat) (opened : List String) (h : isStyle style = true) :
    ∃ outer, applyTag position ('/' :: style) (styleName style :: opened) = .ok outer := by
  have hname : tagName ('/' :: style) = '/' :: style := by
    show '/' :: tagName style = '/' :: style
    rw [tagName_of_isStyle h]
  have hopen : (styleName style :: opened).contains (styleName style) = true := by simp
  unfold applyTag
  simp only [hname, hopen, if_true]
  split
  · exact ⟨_, rfl⟩
  · exact ⟨_, rfl⟩

/-- **An opening tag prints nothing** and opens its style. -/
theorem renderFrom_opening (h : isStyle style = true) (position : Nat) (rest : List Char) :
    renderFrom position opened (.text 0) ('[' :: style ++ ']' :: rest) =
      renderFrom (position + 1 + style.length + 1) (styleName style :: opened) (.text 0) rest := by
  have hopens : opensTag (style ++ ']' :: rest) = true := by
    obtain ⟨c, more, rfl, ha, hz⟩ := exists_cons_of_isStyle h
    have hmore : ∀ d ∈ more, d ≠ '[' ∧ d ≠ ']' := fun d hd =>
      (ne_of_isStyle h d (List.mem_cons_of_mem _ hd)).1
    show (isTagStart c && closes (more ++ ']' :: rest)) = true
    rw [closes_tag more hmore, Bool.and_true]
    simp [isTagStart, ha, hz]
  have htag := renderFrom_tag (position + 1) position opened []
    (fun c hc => (ne_of_isStyle h c hc).1.2) rest
  rw [List.reverse_nil, List.nil_append, applyTag_opening _ _ h] at htag
  rw [List.cons_append, renderFrom, if_neg (by decide), if_pos rfl, if_pos hopens,
    if_neg (by decide), htag]
  show (renderFrom _ _ _ rest).map _ = _
  cases renderFrom (position + 1 + style.length + 1) (styleName style :: opened) (.text 0) rest with
  | ok printed => rfl
  | error fault => rfl

/-- **A closing tag prints nothing behind an even number of backslashes**, and is literal behind an
    odd one; of the backslashes every other one is printed. -/
theorem renderFrom_closing (h : isStyle style = true) (position pending : Nat) :
    renderFrom position (styleName style :: opened) (.text pending) ('[' :: '/' :: style ++ [']']) =
      .ok (backslashes (pending / 2) ++
        if pending % 2 = 1 then '[' :: '/' :: style ++ [']'] else []) := by
  have hstyle : ∀ c ∈ style, c ≠ '[' ∧ c ≠ ']' := fun c hc => (ne_of_isStyle h c hc).1
  have hopens : opensTag ('/' :: style ++ [']']) = true := closes_tag style hstyle []
  rw [List.cons_append, renderFrom, if_neg (by decide), if_pos rfl, if_pos hopens]
  by_cases hodd : pending % 2 = 1
  · have hplain : ∀ c ∈ '/' :: style ++ [']'], c ≠ '[' := by
      intro c hc
      rcases List.mem_append.mp hc with hc | hc
      · rcases List.mem_cons.mp hc with rfl | hc
        · decide
        · exact (hstyle c hc).1
      · rw [List.mem_singleton.mp hc]
        decide
    rw [if_pos hodd, if_pos hodd, renderFrom_of_plain hplain]
    show Except.ok (backslashes (pending / 2) ++ ['['] ++ _) = _
    rw [List.append_assoc]
    rfl
  · obtain ⟨outer, houter⟩ := applyTag_closing position opened h
    have hclosed : ∀ c ∈ '/' :: style, c ≠ ']' := by
      intro c hc
      rcases List.mem_cons.mp hc with rfl | hc
      · decide
      · exact (hstyle c hc).2
    have htag := renderFrom_tag (position + 1) position (styleName style :: opened) [] hclosed []
    rw [List.reverse_nil, List.nil_append, houter] at htag
    rw [if_neg hodd, if_neg hodd, htag]
    rfl

/-- **A style may be opened** in front of markup that is printed while it is open. -/
theorem renders_opening_append (h : isStyle style = true)
    (hrest : Renders (styleName style :: opened) 0 rest) :
    Renders opened 0 ('[' :: style ++ ']' :: rest) := by
  intro position
  rw [renderFrom_opening h]
  exact hrest _

/-- **A style that is open may be closed** at the end, behind any number of backslashes. -/
theorem renders_closing (opened : List String) (h : isStyle style = true) (pending : Nat) :
    Renders (styleName style :: opened) pending ('[' :: '/' :: style ++ [']']) :=
  fun position => ⟨_, renderFrom_closing h position pending⟩

end Styles

/-- Markup that renders from the beginning on is printed. -/
theorem exists_render {cs : List Char} (h : Renders [] 0 cs) : ∃ text, render cs = .ok text := by
  obtain ⟨printed, hprinted⟩ := h 0
  unfold render
  split
  · rw [hprinted]
    exact ⟨_, rfl⟩
  · exact ⟨_, rfl⟩

/-- **A text made literal is printed.** -/
theorem exists_render_escape (cs : List Char) : ∃ text, render (escape cs) = .ok text := by
  have h := renders_escape_append rfl (renders_nil []) cs
  rw [List.append_nil] at h
  exact exists_render h

/-- Text without brackets is printed. -/
theorem exists_render_of_plain {cs : List Char} (h : ∀ c ∈ cs, c ≠ '[') :
    ∃ text, render cs = .ok text :=
  exists_render fun position => ⟨_, renderFrom_of_plain h position 0⟩

end Markup

end SampleSchema
