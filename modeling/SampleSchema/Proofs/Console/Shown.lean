import SampleSchema.Proofs.Console.Literal

/-!
# What appears of a literal text

Making a text literal and printing it as markup are two readers of brackets and backslashes, and
printing does not undo the other in every case. `Markup.shownFrom` is the text that appears, and it
differs from the text given in two ways only. A backslash before a bracket that opens no tag is
LOST: nothing is put in front of such a bracket, but in print a backslash before it counts as an
escape. And the backslashes at the end are read together with what stands behind the text; what
becomes of them is a parameter of `Markup.shownFrom`, and `Markup.prints_escape_append` gives it for
any markup behind the text.

`Markup.shownFrom_eq_self_iff` says when the text that appears is the text given.
-/

namespace SampleSchema

namespace Markup

/-! ## 1. Backslashes -/

/-- The number of backslashes a text ends in. -/
def endBackslashes (cs : List Char) : Nat := (cs.reverse.takeWhile (· = '\\')).length

/-- **A text loses a backslash**: one stands before a bracket that opens no tag. -/
def LosesBackslash (cs : List Char) : Prop :=
  ∃ front rest, cs = front ++ '\\' :: '[' :: rest ∧ opensTag rest = false

/-- What appears of a text that stands behind `pending` backslashes. A backslash before a bracket
    that opens no tag is lost; of backslashes at the end `last` is left. -/
def shownFrom (last : Nat → List Char) (pending : Nat) : List Char → List Char
  | [] => last pending
  | c :: rest =>
    if c = '\\' then shownFrom last (pending + 1) rest
    else if c = '[' ∧ opensTag rest = false then
      backslashes (pending - 1) ++ c :: shownFrom last 0 rest
    else backslashes pending ++ c :: shownFrom last 0 rest

section EndBackslashes

theorem endBackslashes_backslashes (n : Nat) : endBackslashes (backslashes n) = n := by
  unfold endBackslashes backslashes
  rw [List.reverse_replicate, List.takeWhile_replicate_eq_filter]
  simp

theorem exists_append_endBackslashes (cs : List Char) :
    ∃ front, cs = front ++ backslashes (endBackslashes cs) := by
  have hrun : (cs.reverse.takeWhile (· = '\\')).reverse = backslashes (endBackslashes cs) := by
    refine List.eq_replicate_iff.mpr ⟨List.length_reverse, fun c hc => ?_⟩
    have hslash := List.mem_takeWhile_imp (List.mem_reverse.mp hc)
    exact of_decide_eq_true hslash
  refine ⟨(cs.reverse.dropWhile (· = '\\')).reverse, ?_⟩
  rw [← hrun, ← List.reverse_append, List.takeWhile_append_dropWhile, List.reverse_reverse]

/-- Only what stands behind the last other character counts. -/
theorem endBackslashes_append_cons {c : Char} (hc : c ≠ '\\') (front rest : List Char) :
    endBackslashes (front ++ c :: rest) = endBackslashes rest := by
  have hreverse : (front ++ c :: rest).reverse = rest.reverse ++ (c :: front.reverse) := by simp
  unfold endBackslashes
  rw [hreverse, List.takeWhile_append]
  split
  · rename_i hlength
    rw [List.takeWhile_cons_of_neg (by simpa using hc), List.append_nil, ← hlength]
  · rfl

/-- Making a text literal leaves the backslashes at its end. -/
theorem endBackslashes_escapeFrom (pending : Nat) (cs : List Char) :
    endBackslashes (escapeFrom pending cs) = endBackslashes (backslashes pending ++ cs) := by
  induction cs generalizing pending with
  | nil => rw [List.append_nil, escapeFrom]
  | cons c rest ih =>
    have hrest := ih 0
    change endBackslashes (escapeFrom 0 rest) = endBackslashes rest at hrest
    unfold escapeFrom
    split
    · rename_i hslash
      rw [ih, backslashes_succ_append, hslash]
    · rename_i hslash
      rw [endBackslashes_append_cons hslash]
      split
      · rw [endBackslashes_append_cons hslash, hrest]
      · rw [endBackslashes_append_cons hslash, hrest]

/-- **A single backslash at the end is doubled**, and any other number is left. -/
theorem guardEnd_eq (cs : List Char) :
    guardEnd cs = if endBackslashes cs = 1 then cs ++ ['\\'] else cs := by
  unfold guardEnd endBackslashes
  split
  · rename_i heq
    rw [heq]
    simp
  · rename_i more hone heq
    have hstop : more.takeWhile (· = '\\') = [] := by
      cases more with
      | nil => rfl
      | cons c rest =>
        refine List.takeWhile_cons_of_neg fun hc => hone rest ?_
        rw [of_decide_eq_true hc]
    rw [heq, List.takeWhile_cons_of_pos (by simp), hstop]
    rfl
  · rename_i _ hnone
    have hstop : cs.reverse.takeWhile (· = '\\') = [] := by
      cases hreverse : cs.reverse with
      | nil => rfl
      | cons c rest =>
        refine List.takeWhile_cons_of_neg fun hc => hnone rest ?_
        rw [hreverse, of_decide_eq_true hc]
    rw [hstop]
    rfl

end EndBackslashes

section LosesBackslash

theorem losesBackslash_cons {c : Char} {rest : List Char} :
    LosesBackslash (c :: rest) ↔
      (c = '\\' ∧ ∃ more, rest = '[' :: more ∧ opensTag more = false) ∨ LosesBackslash rest := by
  constructor
  · rintro ⟨front, more, heq, hopens⟩
    cases front with
    | nil =>
      obtain ⟨rfl, rfl⟩ := List.cons.inj heq
      exact Or.inl ⟨rfl, more, rfl, hopens⟩
    | cons d front =>
      obtain ⟨rfl, rfl⟩ := List.cons.inj heq
      exact Or.inr ⟨front, more, rfl, hopens⟩
  · rintro (⟨rfl, more, rfl, hopens⟩ | ⟨front, more, rfl, hopens⟩)
    · exact ⟨[], more, rfl, hopens⟩
    · exact ⟨c :: front, more, rfl, hopens⟩

theorem not_losesBackslash_backslashes (n : Nat) : ¬ LosesBackslash (backslashes n) := by
  rintro ⟨front, rest, heq, -⟩
  have hmem : '[' ∈ backslashes n := by
    rw [heq]
    simp
  exact absurd (List.eq_of_mem_replicate hmem) (by decide)

/-- Behind backslashes one is lost at the next character, or later. -/
theorem losesBackslash_backslashes_cons {c : Char} (hc : c ≠ '\\') (n : Nat) (rest : List Char) :
    LosesBackslash (backslashes n ++ c :: rest) ↔
      (0 < n ∧ c = '[' ∧ opensTag rest = false) ∨ LosesBackslash rest := by
  induction n with
  | zero =>
    rw [show backslashes 0 ++ c :: rest = c :: rest from rfl, losesBackslash_cons]
    simp [hc]
  | succ n ih =>
    rw [show backslashes (n + 1) ++ c :: rest = '\\' :: (backslashes n ++ c :: rest) from rfl,
      losesBackslash_cons, ih]
    cases n with
    | zero =>
      rw [show backslashes 0 ++ c :: rest = c :: rest from rfl]
      constructor
      · rintro (⟨-, more, heq, hopens⟩ | ⟨hzero, -⟩ | hlater)
        · obtain ⟨rfl, rfl⟩ := List.cons.inj heq
          exact Or.inl ⟨Nat.one_pos, rfl, hopens⟩
        · exact absurd hzero (lt_irrefl 0)
        · exact Or.inr hlater
      · rintro (⟨-, rfl, hopens⟩ | hlater)
        · exact Or.inl ⟨rfl, rest, rfl, hopens⟩
        · exact Or.inr (Or.inr hlater)
    | succ n =>
      have hfirst : ¬ ∃ more, backslashes (n + 1) ++ c :: rest = '[' :: more ∧
          opensTag more = false := by
        rintro ⟨more, heq, -⟩
        exact absurd (List.cons.inj heq).1 (by decide)
      simp [hfirst]

/-- Is a backslash lost at the front of a text that stands behind one? -/
def losesFirst : List Char → Bool
  | '[' :: rest => !opensTag rest
  | _ => false

instance decidableLosesBackslash : DecidablePred LosesBackslash
  | [] => isFalse (not_losesBackslash_backslashes 0)
  | c :: rest =>
    have hfirst : losesFirst rest = true ↔ ∃ more, rest = '[' :: more ∧ opensTag more = false := by
      unfold losesFirst
      split
      · simp
      · rename_i hnone
        refine iff_of_false Bool.false_ne_true ?_
        rintro ⟨more, rfl, -⟩
        exact hnone more rfl
    have : Decidable (LosesBackslash rest) := decidableLosesBackslash rest
    decidable_of_iff ((c = '\\' ∧ losesFirst rest = true) ∨ LosesBackslash rest) (by
      rw [losesBackslash_cons, hfirst])

end LosesBackslash

/-! ## 2. The text that appears -/

section ShownFrom

variable {last last' : Nat → List Char}

/-- **What becomes of the backslashes at the end** is all that the parameter says. -/
theorem shownFrom_congr {pending : Nat} {cs : List Char}
    (h : last (endBackslashes (backslashes pending ++ cs)) =
      last' (endBackslashes (backslashes pending ++ cs))) :
    shownFrom last pending cs = shownFrom last' pending cs := by
  induction cs generalizing pending with
  | nil =>
    rw [List.append_nil, endBackslashes_backslashes] at h
    exact h
  | cons c rest ih =>
    unfold shownFrom
    by_cases hslash : c = '\\'
    · rw [if_pos hslash, if_pos hslash]
      rw [hslash, ← backslashes_succ_append] at h
      exact ih h
    · rw [endBackslashes_append_cons hslash] at h
      have hrest : shownFrom last 0 rest = shownFrom last' 0 rest := ih h
      rw [if_neg hslash, if_neg hslash, hrest]

/-- **The text that appears is the text given** exactly if it loses no backslash and the backslashes
    at its end are left as they are. -/
theorem shownFrom_eq_self_iff (pending : Nat) (cs : List Char) :
    shownFrom last pending cs = backslashes pending ++ cs ↔
      ¬ LosesBackslash (backslashes pending ++ cs) ∧
      last (endBackslashes (backslashes pending ++ cs)) =
        backslashes (endBackslashes (backslashes pending ++ cs)) := by
  induction cs generalizing pending with
  | nil =>
    rw [List.append_nil, endBackslashes_backslashes]
    exact (and_iff_right (not_losesBackslash_backslashes pending)).symm
  | cons c rest ih =>
    unfold shownFrom
    by_cases hslash : c = '\\'
    · rw [if_pos hslash, hslash, ← backslashes_succ_append]
      exact ih (pending + 1)
    · have hrest := ih 0
      change shownFrom last 0 rest = rest ↔ ¬ LosesBackslash rest ∧
        last (endBackslashes rest) = backslashes (endBackslashes rest) at hrest
      rw [if_neg hslash, losesBackslash_backslashes_cons hslash, endBackslashes_append_cons hslash,
        not_or, and_assoc, ← hrest]
      split
      · rename_i hloose
        cases pending with
        | zero =>
          rw [List.append_cancel_left_eq]
          simp
        | succ n =>
          -- the bracket appears where the text has the backslash
          rw [Nat.add_sub_cancel, backslashes_succ_append, List.append_cancel_left_eq]
          constructor
          · intro heq
            exact absurd (List.cons.inj heq).1.symm (fun h => hslash h.symm)
          · rintro ⟨hkept, -⟩
            exact absurd ⟨Nat.succ_pos n, hloose⟩ hkept
      · rename_i hkept
        have hkept' : ¬ (0 < pending ∧ c = '[' ∧ opensTag rest = false) := fun h => hkept h.2
        rw [and_iff_right hkept', List.append_cancel_left_eq]
        simp

/-- What is left of the backslashes at the end stands at the end. -/
theorem exists_shownFrom_eq (last : Nat → List Char) (pending : Nat) (cs : List Char) :
    ∃ front, shownFrom last pending cs =
      front ++ last (endBackslashes (backslashes pending ++ cs)) := by
  induction cs generalizing pending with
  | nil =>
    rw [List.append_nil, endBackslashes_backslashes]
    exact ⟨[], rfl⟩
  | cons c rest ih =>
    unfold shownFrom
    by_cases hslash : c = '\\'
    · rw [if_pos hslash, hslash, ← backslashes_succ_append]
      exact ih (pending + 1)
    · obtain ⟨front, hfront⟩ := ih 0
      change shownFrom last 0 rest = front ++ last (endBackslashes rest) at hfront
      rw [if_neg hslash, endBackslashes_append_cons hslash, hfront]
      split
      · exact ⟨backslashes (pending - 1) ++ c :: front, by simp⟩
      · exact ⟨backslashes pending ++ c :: front, by simp⟩

/-- No other character appears than those of the text, backslashes, and what is left at the end. -/
theorem mem_of_mem_shownFrom {pending : Nat} {cs : List Char} {c : Char}
    (h : c ∈ shownFrom last pending cs) : c ∈ cs ∨ c = '\\' ∨ ∃ n, c ∈ last n := by
  induction cs generalizing pending with
  | nil => exact Or.inr (Or.inr ⟨pending, h⟩)
  | cons d rest ih =>
    have hlater : ∀ {n}, c ∈ backslashes n ++ d :: shownFrom last 0 rest →
        c ∈ d :: rest ∨ c = '\\' ∨ ∃ n, c ∈ last n := by
      intro n h
      rcases List.mem_append.mp h with h | h
      · exact Or.inr (Or.inl (List.eq_of_mem_replicate h))
      · rcases List.mem_cons.mp h with rfl | h
        · exact Or.inl List.mem_cons_self
        · exact (ih h).imp_left (List.mem_cons_of_mem d)
    unfold shownFrom at h
    split at h
    · exact (ih h).imp_left (List.mem_cons_of_mem d)
    · split at h
      · exact hlater h
      · exact hlater h

end ShownFrom

section Counts

theorem count_backslashes_append (n : Nat) (cs : List Char) :
    (backslashes n ++ cs).count '\\' = n + cs.count '\\' := by
  unfold backslashes
  rw [List.count_append, List.count_replicate_self]

/-- **Backslashes only become fewer** if they do not become more at the end; and they do if one is
    lost, or if some at the end are. -/
theorem count_shownFrom (last : Nat → List Char) (hlast : ∀ n, (last n).count '\\' ≤ n)
    (pending : Nat) (cs : List Char) :
    (shownFrom last pending cs).count '\\' ≤ pending + cs.count '\\' ∧
    (LosesBackslash (backslashes pending ++ cs) ∨
        (last (endBackslashes (backslashes pending ++ cs))).count '\\' <
          endBackslashes (backslashes pending ++ cs) →
      (shownFrom last pending cs).count '\\' < pending + cs.count '\\') := by
  induction cs generalizing pending with
  | nil =>
    rw [List.append_nil, endBackslashes_backslashes]
    exact ⟨hlast pending, fun h => h.resolve_left (not_losesBackslash_backslashes pending)⟩
  | cons c rest ih =>
    unfold shownFrom
    by_cases hslash : c = '\\'
    · have hsum : pending + (rest.count '\\' + 1) = pending + 1 + rest.count '\\' := by omega
      rw [if_pos hslash, hslash, List.count_cons_self, ← backslashes_succ_append, hsum]
      exact ih (pending + 1)
    · obtain ⟨hle, hlt⟩ := ih 0
      change LosesBackslash rest ∨ (last (endBackslashes rest)).count '\\' < endBackslashes rest →
        _ at hlt
      rw [Nat.zero_add] at hle hlt
      rw [if_neg hslash, losesBackslash_backslashes_cons hslash, endBackslashes_append_cons hslash,
        or_assoc, List.count_cons_of_ne hslash]
      split
      · rw [count_backslashes_append, List.count_cons_of_ne hslash]
        refine ⟨by omega, fun h => ?_⟩
        rcases h with ⟨hpending, -⟩ | hlater
        · omega
        · have hfewer := hlt hlater
          omega
      · rename_i hkept
        rw [count_backslashes_append, List.count_cons_of_ne hslash]
        refine ⟨by omega, fun h => ?_⟩
        have hfewer := hlt (h.resolve_left fun hfirst => hkept hfirst.2)
        omega

end Counts

/-! ## 3. Printing -/

/-- **Markup prints a text**, behind a number of backslashes and with certain styles open, wherever
    it stands. -/
def Prints (opened : List String) (pending : Nat) (cs printed : List Char) : Prop :=
  ∀ position, renderFrom position opened (.text pending) cs = .ok printed

/-- What is left of the backslashes at the end of a text that is made literal. -/
def guarded (n : Nat) : Nat := if n = 1 then 2 else n

section Prints

variable {opened : List String} {rest printed : List Char}

theorem prints_backslashes_append {pending n : Nat} (h : Prints opened (pending + n) rest printed) :
    Prints opened pending (backslashes n ++ rest) printed := by
  induction n generalizing pending with
  | zero => exact h
  | succ n ih =>
    have hmore : Prints opened (pending + 1) (backslashes n ++ rest) printed := by
      refine ih ?_
      rw [Nat.add_assoc, Nat.add_comm 1 n]
      exact h
    exact fun position => hmore (position + 1)

theorem Prints.cons (h : Prints opened 0 rest printed) {c : Char} (hslash : c ≠ '\\')
    (hopen : c ≠ '[') (pending : Nat) :
    Prints opened pending (c :: rest) (backslashes pending ++ c :: printed) := by
  intro position
  rw [renderFrom, if_neg hslash, if_neg hopen, h (position + 1)]
  exact congrArg Except.ok (List.append_assoc _ _ _)

/-- A bracket that opens no tag takes a backslash away. -/
theorem Prints.bracket (h : Prints opened 0 rest printed) (hopens : opensTag rest = false)
    (pending : Nat) :
    Prints opened pending ('[' :: rest) (backslashes (pending - 1) ++ '[' :: printed) := by
  intro position
  rw [renderFrom, if_neg (by decide), if_pos rfl, if_neg (by simp [hopens]), h (position + 1)]
  exact congrArg Except.ok (List.append_assoc _ _ _)

/-- A tag behind an odd number of backslashes is printed with half of the others. -/
theorem Prints.literalTag (h : Prints opened 0 rest printed) (hopens : opensTag rest = true)
    (n : Nat) : Prints opened (2 * n + 1) ('[' :: rest) (backslashes n ++ '[' :: printed) := by
  intro position
  have hodd : (2 * n + 1) % 2 = 1 := by omega
  have hhalf : (2 * n + 1) / 2 = n := by omega
  rw [renderFrom, if_neg (by decide), if_pos rfl, if_pos hopens, if_pos hodd, hhalf,
    h (position + 1)]
  exact congrArg Except.ok (List.append_assoc _ _ _)

/-- **A text made literal prints what appears of it**, in front of markup that does not close a
    bracket of the text and prints `last` of a number of backslashes before it. -/
theorem prints_escapeFrom_append {last : Nat → List Char} (hcloses : closes rest = false)
    (h : ∀ pending, Prints opened pending rest (last pending)) (pending : Nat) (cs : List Char) :
    Prints opened 0 (escapeFrom pending cs ++ rest) (shownFrom last pending cs) := by
  induction cs generalizing pending with
  | nil =>
    refine prints_backslashes_append ?_
    rw [Nat.zero_add]
    exact h pending
  | cons c cs ih =>
    have hmore : Prints opened 0 (escapeFrom 0 cs ++ rest) (shownFrom last 0 cs) := ih 0
    have hopens : opensTag (escapeFrom 0 cs ++ rest) = opensTag cs := by
      rw [opensTag_append hcloses, opensTag_escapeFrom]
    unfold escapeFrom shownFrom
    by_cases hslash : c = '\\'
    · rw [if_pos hslash, if_pos hslash]
      exact ih (pending + 1)
    · rw [if_neg hslash, if_neg hslash]
      by_cases hopen : c = '['
      · subst hopen
        cases htag : opensTag cs with
        | true =>
          rw [if_pos ⟨rfl, rfl⟩, if_neg (by simp), List.append_assoc]
          refine prints_backslashes_append ?_
          rw [Nat.zero_add]
          exact hmore.literalTag (hopens.trans htag) pending
        | false =>
          rw [if_neg (by simp), if_pos ⟨rfl, rfl⟩, List.append_assoc]
          refine prints_backslashes_append ?_
          rw [Nat.zero_add]
          exact hmore.bracket (hopens.trans htag) pending
      · rw [if_neg fun h => hopen h.1, if_neg fun h => hopen h.1, List.append_assoc]
        refine prints_backslashes_append ?_
        rw [Nat.zero_add]
        exact hmore.cons hslash hopen pending

/-- **The same of a text that is guarded at its end**: a single backslash there is read as two. -/
theorem prints_escape_append {last : Nat → List Char} (hcloses : closes rest = false)
    (h : ∀ pending, Prints opened pending rest (last pending)) (cs : List Char) :
    Prints opened 0 (escape cs ++ rest) (shownFrom (fun n => last (guarded n)) 0 cs) := by
  have hend : endBackslashes (escapeFrom 0 cs) = endBackslashes cs := endBackslashes_escapeFrom 0 cs
  unfold escape
  rw [guardEnd_eq, hend]
  by_cases hone : endBackslashes cs = 1
  · have hcloses' : closes (['\\'] ++ rest) = false := by
      rw [List.singleton_append, closes_cons, if_neg (by decide), if_neg (by decide)]
      exact hcloses
    have hshown : shownFrom (fun n => last (guarded n)) 0 cs =
        shownFrom (fun n => last (n + 1)) 0 cs := by
      refine shownFrom_congr ?_
      show last (guarded (endBackslashes cs)) = last (endBackslashes cs + 1)
      rw [hone]
      rfl
    rw [if_pos hone, List.append_assoc, hshown]
    exact prints_escapeFrom_append hcloses'
      (fun pending => prints_backslashes_append (n := 1) (h (pending + 1))) 0 cs
  · have hshown : shownFrom (fun n => last (guarded n)) 0 cs = shownFrom last 0 cs := by
      refine shownFrom_congr ?_
      show last (guarded (endBackslashes cs)) = last (endBackslashes cs)
      unfold guarded
      rw [if_neg hone]
    rw [if_neg hone, hshown]
    exact prints_escapeFrom_append hcloses h 0 cs

end Prints

/-! ## 4. Cells and messages -/

/-- **What appears of a text in a cell**, where nothing stands behind it. -/
def cellText (cs : List Char) : List Char := shownFrom (fun n => backslashes (guarded n)) 0 cs

/-- The tag that closes a style. -/
def closingTag (style : List Char) : List Char := '[' :: '/' :: style ++ [']']

/-- What is left of backslashes before a tag that closes a style. -/
def beforeClosing (style : List Char) (n : Nat) : List Char :=
  backslashes (n / 2) ++ if n % 2 = 1 then closingTag style else []

/-- **What appears of a text in a message**, where a tag stands behind it. -/
def messageText (style cs : List Char) : List Char :=
  shownFrom (fun n => beforeClosing style (guarded n)) 0 cs

/-- Markup gives the text that it prints, but for characters that are silent. -/
theorem render_of_prints {cs printed : List Char} (h : Prints [] 0 cs printed) :
    render cs = .ok (printed.filter fun c => !isSilent c) := by
  unfold render
  split
  · rw [h 0]
    rfl
  · rename_i hnone
    have hplain : ∀ c ∈ cs, c ≠ '[' := by
      rintro c hc rfl
      exact hnone (List.contains_iff_mem.mpr hc)
    have hsame : Except.ok cs = renderFrom 0 [] (.text 0) cs :=
      (renderFrom_of_plain hplain 0 0).symm
    rw [hsame, h 0]
    rfl

theorem render_escape (cs : List Char) :
    render (escape cs) = .ok ((cellText cs).filter fun c => !isSilent c) := by
  have h : Prints [] 0 (escape cs ++ []) (cellText cs) :=
    prints_escape_append rfl (fun _ _ => rfl) cs
  rw [List.append_nil] at h
  exact render_of_prints h

theorem render_message {style : List Char} (hstyle : isStyle style = true) (cs : List Char) :
    render ('[' :: style ++ ']' :: (escape cs ++ closingTag style)) =
      .ok ((messageText style cs).filter fun c => !isSilent c) := by
  have hclosing : ∀ pending, Prints [styleName style] pending (closingTag style)
      (beforeClosing style pending) := fun pending position =>
    renderFrom_closing hstyle position pending
  have hbody := prints_escape_append rfl hclosing cs
  refine render_of_prints fun position => ?_
  rw [renderFrom_opening hstyle]
  exact hbody _

/-- **A cell shows a text as it is** exactly if no backslash is lost, and the text does not end in
    just one. -/
theorem cellText_eq_self_iff (cs : List Char) :
    cellText cs = cs ↔ ¬ LosesBackslash cs ∧ endBackslashes cs ≠ 1 := by
  have hend : backslashes (guarded (endBackslashes cs)) = backslashes (endBackslashes cs) ↔
      endBackslashes cs ≠ 1 := by
    unfold guarded backslashes
    rw [List.replicate_left_inj]
    split <;> omega
  exact (shownFrom_eq_self_iff 0 cs).trans (and_congr_right' hend)

/-- Of a single backslash at its end a cell shows two, and nothing is lost after that. -/
theorem exists_cellText_of_one {cs : List Char} (hone : endBackslashes cs = 1) :
    ∃ front, cellText cs = front ++ ['\\', '\\'] := by
  obtain ⟨front, hfront⟩ := exists_shownFrom_eq (fun n => backslashes (guarded n)) 0 cs
  change cellText cs = front ++ backslashes (guarded (endBackslashes cs)) at hfront
  rw [hone] at hfront
  exact ⟨front, hfront⟩

/-- Any other text that a cell does not show as it is loses a backslash in it. -/
theorem count_cellText_lt {cs : List Char} (hlost : LosesBackslash cs)
    (hend : endBackslashes cs ≠ 1) : (cellText cs).count '\\' < cs.count '\\' := by
  have hsame : cellText cs = shownFrom backslashes 0 cs := by
    refine shownFrom_congr ?_
    show backslashes (guarded (endBackslashes cs)) = backslashes (endBackslashes cs)
    unfold guarded
    rw [if_neg hend]
  have hcount := (count_shownFrom backslashes (fun _ => List.count_replicate_self.le) 0 cs).2
    (Or.inl hlost)
  rw [hsame]
  omega

theorem mem_of_mem_cellText {cs : List Char} {c : Char} (h : c ∈ cellText cs) :
    c ∈ cs ∨ c = '\\' := by
  rcases mem_of_mem_shownFrom h with h | h | ⟨n, h⟩
  · exact Or.inl h
  · exact Or.inr h
  · exact Or.inr (List.eq_of_mem_replicate h)

section Message

variable {style : List Char} (hstyle : '\\' ∉ style)
include hstyle

theorem count_beforeClosing (n : Nat) : (beforeClosing style n).count '\\' = n / 2 := by
  unfold beforeClosing
  rw [count_backslashes_append]
  split
  · have hnone : '\\' ∉ closingTag style := by
      simp [closingTag, hstyle]
    rw [List.count_eq_zero_of_not_mem hnone, Nat.add_zero]
  · rw [List.count_nil, Nat.add_zero]

/-- **A message shows a text as it is** exactly if no backslash is lost, and the text does not end
    in two of them. -/
theorem messageText_eq_self_iff (cs : List Char) :
    messageText style cs = cs ↔ ¬ LosesBackslash cs ∧ endBackslashes cs ≤ 1 := by
  have hend : beforeClosing style (guarded (endBackslashes cs)) =
      backslashes (endBackslashes cs) ↔ endBackslashes cs ≤ 1 := by
    generalize endBackslashes cs = n
    constructor
    · intro heq
      have hcount := congrArg (List.count '\\') heq
      rw [count_beforeClosing hstyle, backslashes, List.count_replicate_self] at hcount
      unfold guarded at hcount
      split at hcount <;> omega
    · intro hle
      obtain rfl | rfl : n = 0 ∨ n = 1 := by omega
      · rfl
      · rfl
  exact (shownFrom_eq_self_iff 0 cs).trans (and_congr_right' hend)

/-- A text that a message does not show as it is has fewer backslashes in it. -/
theorem count_messageText_lt {cs : List Char} (hne : messageText style cs ≠ cs) :
    (messageText style cs).count '\\' < cs.count '\\' := by
  have hcount := count_shownFrom (fun n => beforeClosing style (guarded n)) (fun n => by
    rw [count_beforeClosing hstyle]
    unfold guarded
    split <;> omega) 0 cs
  have hlost : LosesBackslash cs ∨
      (beforeClosing style (guarded (endBackslashes cs))).count '\\' < endBackslashes cs := by
    rw [Ne, messageText_eq_self_iff hstyle, not_and_or, not_not, not_le] at hne
    refine hne.imp_right fun hend => ?_
    rw [count_beforeClosing hstyle]
    unfold guarded
    rw [if_neg (by omega)]
    omega
  have hfewer := hcount.2 hlost
  rw [Nat.zero_add] at hfewer
  exact hfewer

end Message

end Markup

end SampleSchema
