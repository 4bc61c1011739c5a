import Mathlib.Data.List.DropRight
import SampleSchema.Console.Table
import SampleSchema.Proofs.Text.Words

/-!
# What fitting leaves of a text

Breaking a text into lines moves characters and drops none but tabs, line breaks and blanks at the
ends of lines, so each other character is there as often as before (`count_brokenLines`). A line
that is not too wide stays in one piece (`brokenLines_of_fits`, `Table.cellLines_of_fits`), and what
is left of it differs from it in blanks at its end at most.
-/

namespace SampleSchema

/-! ## 1. Columns -/

/-- Counting on from a number adds it. -/
theorem foldl_charColumns (n : Nat) (cs : List Char) :
    cs.foldl (fun n c => n + charColumns c) n = n + columnCount cs := by
  unfold columnCount
  induction cs generalizing n with
  | nil => rfl
  | cons c cs ih =>
    rw [List.foldl_cons, List.foldl_cons, ih, ih (0 + charColumns c), Nat.zero_add, Nat.add_assoc]

theorem columnCount_append (xs ys : List Char) :
    columnCount (xs ++ ys) = columnCount xs + columnCount ys := by
  rw [columnCount, List.foldl_append, foldl_charColumns]
  rfl

/-! ## 2. Blanks at the end -/

/-- A text is what is left without the blanks at its end, and these. -/
theorem withoutEnd_append (cs : List Char) : withoutEnd cs ++ cs.rtakeWhile isBlank = cs := by
  show (cs.reverse.dropWhile isBlank).reverse ++ (cs.reverse.takeWhile isBlank).reverse = cs
  rw [← List.reverse_append, List.takeWhile_append_dropWhile, List.reverse_reverse]

theorem columnCount_withoutEnd_le (cs : List Char) :
    columnCount (withoutEnd cs) ≤ columnCount cs := by
  have hall := congrArg columnCount (withoutEnd_append cs)
  rw [columnCount_append] at hall
  omega

/-- Blanks behind a text are nothing to what is left. -/
theorem withoutEnd_append_blanks (cs : List Char) {blanks : List Char}
    (h : ∀ c ∈ blanks, isBlank c = true) : withoutEnd (cs ++ blanks) = withoutEnd cs := by
  unfold withoutEnd
  rw [List.reverse_append, List.dropWhile_append_of_pos fun c hc => h c (List.mem_reverse.mp hc)]

/-- A text that ends in no blank is left as it is. -/
theorem withoutEnd_append_singleton (cs : List Char) {c : Char} (h : isBlank c = false) :
    withoutEnd (cs ++ [c]) = cs ++ [c] := by
  unfold withoutEnd
  rw [List.reverse_append, List.reverse_singleton, List.singleton_append,
    List.dropWhile_cons_of_neg (by simp [h]), List.reverse_cons, List.reverse_reverse]

theorem withoutEnd_filled (width : Nat) (cs : List Char) :
    withoutEnd (filled width cs) = withoutEnd cs :=
  withoutEnd_append_blanks cs fun c hc => by
    rw [List.eq_of_mem_replicate hc]
    decide

/-- **A line loses blanks at its end only**, if there are too many. -/
theorem exists_withoutExcess_append (width : Nat) (cs : List Char) :
    ∃ blanks, cs = withoutExcess width cs ++ blanks ∧ ∀ c ∈ blanks, isBlank c = true := by
  let n := min (cs.length - (withoutEnd cs).length) (cs.length - width)
  refine ⟨cs.drop (cs.length - n), (List.take_append_drop _ cs).symm, fun c hc => ?_⟩
  have hparts := withoutEnd_append cs
  have hlength := congrArg List.length hparts
  rw [List.length_append] at hlength
  have hbehind : (withoutEnd cs).drop (cs.length - n) = [] := List.drop_eq_nil_of_le (by omega)
  rw [← hparts, List.drop_append, hparts, hbehind, List.nil_append] at hc
  exact List.mem_rtakeWhile_imp (List.mem_of_mem_drop hc)

theorem withoutEnd_withoutExcess (width : Nat) (cs : List Char) :
    withoutEnd (withoutExcess width cs) = withoutEnd cs := by
  obtain ⟨blanks, hcs, hblanks⟩ := exists_withoutExcess_append width cs
  have hsame := withoutEnd_append_blanks (withoutExcess width cs) hblanks
  rw [← hcs] at hsame
  exact hsame.symm

/-- A line with no more characters than columns is left as it is. -/
theorem withoutExcess_of_length_le {width : Nat} {cs : List Char} (h : cs.length ≤ width) :
    withoutExcess width cs = cs := by
  unfold withoutExcess
  dsimp only
  rw [Nat.sub_eq_zero_of_le h, Nat.min_zero, Nat.sub_zero, List.take_length]

theorem columnCount_withoutExcess_le (width : Nat) (cs : List Char) :
    columnCount (withoutExcess width cs) ≤ columnCount cs := by
  obtain ⟨blanks, hcs, -⟩ := exists_withoutExcess_append width cs
  have hall := congrArg columnCount hcs
  rw [columnCount_append] at hall
  omega

/-! ## 3. Lines -/

/-- A line that is not too wide has no word that is. -/
theorem setWords_of_fits {width : Nat} (fold : Bool) {line : List Char} {words : List (List Char)}
    (h : columnCount (line ++ words.flatten) ≤ width) :
    setWords width fold line words = [line ++ words.flatten] := by
  induction words generalizing line with
  | nil =>
    rw [List.flatten_nil, List.append_nil]
    rfl
  | cons word rest ih =>
    rw [List.flatten_cons, ← List.append_assoc] at h ⊢
    have hword : columnCount (withoutEnd word) + columnCount line ≤ width := by
      have hle := columnCount_withoutEnd_le word
      rw [columnCount_append, columnCount_append] at h
      omega
    unfold setWords
    rw [if_pos hword]
    exact ih h

/-- Cutting a line into words loses nothing of it. -/
theorem flatten_spacedWords (word : List Char) (closed : Bool) (cs : List Char) :
    (spacedWords word closed cs).flatten = word.reverse ++ cs := by
  induction cs generalizing word closed with
  | nil =>
    unfold spacedWords
    split
    · rename_i hnone
      rw [List.isEmpty_iff.mp hnone]
      rfl
    · rw [List.flatten_singleton, List.append_nil]
  | cons c rest ih =>
    have hlonger : (c :: word).reverse ++ rest = word.reverse ++ c :: rest := by
      rw [List.reverse_cons, List.append_assoc]
      rfl
    unfold spacedWords
    split
    · rw [ih, hlonger]
    · split
      · rw [List.flatten_cons, ih]
        rfl
      · rw [ih, hlonger]

/-- A text without tabs has none to fill. -/
theorem withoutTabs_of_not_mem {cs : List Char} (h : '\t' ∉ cs) (distance column : Nat) :
    withoutTabs distance column cs = cs := by
  induction cs generalizing column with
  | nil => rfl
  | cons c rest ih =>
    rw [List.mem_cons, not_or] at h
    unfold withoutTabs
    rw [if_neg fun hc => h.1 hc.symm, ih h.2]

theorem lines_of_not_mem {cs : List Char} (h : '\n' ∉ cs) : lines cs = [cs] :=
  segments_eq_singleton fun c hc => by
    have hne : c ≠ '\n' := fun heq => h (heq ▸ hc)
    simp [hne]

/-- **A line that is not too wide is not broken.** -/
theorem brokenLines_of_fits {width : Nat} (fold : Bool) {cs : List Char} (hline : '\n' ∉ cs)
    (htab : '\t' ∉ cs) (hfits : columnCount cs ≤ width) :
    brokenLines width fold cs = [withoutExcess width cs] := by
  have hwords : (spacedWords [] false cs).flatten = cs := flatten_spacedWords [] false cs
  unfold brokenLines
  rw [lines_of_not_mem hline, List.flatMap_singleton]
  dsimp only
  rw [withoutTabs_of_not_mem htab, setWords_of_fits fold (by rw [hwords]; exact hfits), hwords]
  rfl

/-- **A line that is not wider than its column stands in a cell on one line.** -/
theorem Table.cellLines_of_fits (column : TableColumn) {width : Nat} {cs : List Char}
    (hline : '\n' ∉ cs) (htab : '\t' ∉ cs) (hfits : columnCount cs ≤ width) :
    cellLines column width cs = [filled width (withoutExcess width cs)] := by
  have hbroken : (if column.wraps then brokenLines width false cs
      else (lines cs).map fun line => withoutExcess width (withoutTabs tabDistance 0 line)) =
      [withoutExcess width cs] := by
    split
    · exact brokenLines_of_fits false hline htab hfits
    · rw [lines_of_not_mem hline, List.map_singleton, withoutTabs_of_not_mem htab]
  have hwhole : cutWithEllipsis width (withoutExcess width cs) = withoutExcess width cs := by
    have hle := columnCount_withoutExcess_le width cs
    unfold cutWithEllipsis
    exact if_neg (by omega)
  unfold cellLines
  dsimp only
  rw [hbroken, List.map_singleton, hwhole]

/-! ## 4. Characters that are left -/

theorem fitting_append (width : Nat) (cs : List Char) :
    fitting width cs ++ cs.drop (fitting width cs).length = cs := by
  induction cs generalizing width with
  | nil => rfl
  | cons c rest ih =>
    unfold fitting
    split
    · exact congrArg (c :: ·) (ih _)
    · rfl

/-- A long word in pieces is the word. -/
theorem flatten_pieces (width fuel : Nat) (cs : List Char) :
    (pieces width fuel cs).flatten = cs := by
  induction fuel generalizing cs with
  | zero => exact List.flatten_singleton
  | succ fuel ih =>
    unfold pieces
    dsimp only
    split
    · exact List.flatten_singleton
    · rw [List.flatten_cons, ih, fitting_append]

theorem flatten_dropLast_append_getLast (ls : List (List Char)) :
    ls.dropLast.flatten ++ ls.getLast?.getD [] = ls.flatten := by
  induction ls using List.reverseRecOn with
  | nil => rfl
  | append_singleton ls l _ => simp

/-- **Setting words into lines loses nothing of them**, wide or not. -/
theorem flatten_setWords (width : Nat) (fold : Bool) (line : List Char)
    (words : List (List Char)) :
    (setWords width fold line words).flatten = line ++ words.flatten := by
  induction words generalizing line with
  | nil => rw [setWords, List.flatten_singleton, List.flatten_nil, List.append_nil]
  | cons word rest ih =>
    unfold setWords
    split
    · rw [ih, List.append_assoc, List.flatten_cons]
    · split
      · have hline : (if line.isEmpty then [] else [line]).flatten = line := by
          cases line with
          | nil => rfl
          | cons c line => exact List.flatten_singleton
        dsimp only
        rw [List.flatten_append, List.flatten_append, hline, ih, List.append_assoc,
          ← List.append_assoc _ _ rest.flatten, flatten_dropLast_append_getLast, flatten_pieces,
          List.flatten_cons]
      · split
        · rename_i hnone
          rw [ih, List.isEmpty_iff.mp hnone]
          rfl
        · rw [List.flatten_cons, ih, List.flatten_cons]

section Counts

variable {c : Char} (hc : isBlank c = false)
include hc

theorem ne_of_not_blank {d : Char} (hd : isBlank d = true) : c ≠ d := by
  rintro rfl
  rw [hc] at hd
  cases hd

theorem count_withoutTabs (distance column : Nat) (cs : List Char) :
    (withoutTabs distance column cs).count c = cs.count c := by
  induction cs generalizing column with
  | nil => rfl
  | cons d rest ih =>
    unfold withoutTabs
    split
    · rename_i htab
      have hblank : c ∉ List.replicate ((column / distance + 1) * distance - column) ' ' :=
        fun h => ne_of_not_blank hc (by decide) (List.eq_of_mem_replicate h)
      have htab' : d ≠ c := fun heq => ne_of_not_blank hc (by decide) (heq.symm.trans htab)
      dsimp only
      rw [List.count_append, List.count_eq_zero_of_not_mem hblank, ih, Nat.zero_add,
        List.count_cons_of_ne htab']
    · rw [List.count_cons, List.count_cons, ih]

theorem count_withoutExcess (width : Nat) (cs : List Char) :
    (withoutExcess width cs).count c = cs.count c := by
  obtain ⟨blanks, hcs, hblanks⟩ := exists_withoutExcess_append width cs
  have hnone : c ∉ blanks := fun h => ne_of_not_blank hc (hblanks c h) rfl
  have hall := congrArg (List.count c) hcs
  rw [List.count_append, List.count_eq_zero_of_not_mem hnone] at hall
  exact hall.symm

theorem count_filled (width : Nat) (cs : List Char) : (filled width cs).count c = cs.count c := by
  have hblank : c ∉ List.replicate (width - columnCount cs) ' ' :=
    fun h => ne_of_not_blank hc (by decide) (List.eq_of_mem_replicate h)
  unfold filled
  rw [List.count_append, List.count_eq_zero_of_not_mem hblank, Nat.add_zero]

theorem count_lines (cs : List Char) : (lines cs).flatten.count c = cs.count c := by
  have hflatten : (lines cs).flatten = cs.filter fun d => !(d == '\n') := by
    rw [← flatten_words]
    exact List.flatten_filter_not_isEmpty.symm
  rw [hflatten, List.count_filter (by simpa using ne_of_not_blank hc (by decide))]

omit hc in
theorem count_flatten_map {α : Type} {f g : α → List Char}
    (h : ∀ a, (f a).count c = (g a).count c) (as : List α) :
    (as.map f).flatten.count c = (as.map g).flatten.count c := by
  induction as with
  | nil => rfl
  | cons a as ih =>
    rw [List.map_cons, List.map_cons, List.flatten_cons, List.flatten_cons, List.count_append,
      List.count_append, h, ih]

/-- **Each character that is no blank is left as often as it was**, however a text is broken. -/
theorem count_brokenLines (width : Nat) (fold : Bool) (cs : List Char) :
    (brokenLines width fold cs).flatten.count c = cs.count c := by
  let broken := fun line : List Char =>
    setWords width fold [] (spacedWords [] false (withoutTabs tabDistance 0 line))
  have hline : ∀ line, ((broken line).map (withoutExcess width)).flatten.count c =
      line.count c := by
    intro line
    rw [count_flatten_map (g := id) fun ls => count_withoutExcess hc width ls, List.map_id,
      flatten_setWords, flatten_spacedWords, List.nil_append]
    exact count_withoutTabs hc _ _ line
  have hall : (brokenLines width fold cs).flatten =
      ((lines cs).map fun line => ((broken line).map (withoutExcess width)).flatten).flatten := by
    unfold brokenLines
    rw [List.flatMap_def, List.flatten_flatten, List.map_map]
    rfl
  rw [hall, count_flatten_map (g := id) hline, List.map_id, count_lines hc]

end Counts

end SampleSchema
