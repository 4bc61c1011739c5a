import SampleSchema.Proofs.Lists
import SampleSchema.Text.Segments

/-!
# The words of a text

`words` cuts a text at every separator and drops what is empty. Here is what this comes to, said
without cutting: `Runs` takes a text apart into its longest runs of other characters, and the words
are these runs (`runs_iff`). So a text has the same words whatever separators stand between them and
at its ends (`words_append_gap`, `words_between`), and put together they are the text without its
separators (`flatten_words`).
-/

namespace SampleSchema

section Words

variable {isSeparator : Char → Bool}

/-! ## 1. Cutting at a separator -/

section Separator

variable {sep : Char} (h : isSeparator sep = true)
include h

theorem segments_append_separator (cs rest : List Char) :
    segments isSeparator (cs ++ sep :: rest) =
      segments isSeparator cs ++ segments isSeparator rest := by
  induction cs with
  | nil => simp [segments, h]
  | cons c more ih =>
    rw [List.cons_append, segments, segments, ih]
    split
    · rfl
    · cases hmore : segments isSeparator more with
      | nil => exact absurd hmore (segments_ne_nil isSeparator more)
      | cons piece pieces => rfl

/-- **The words of a text are those on both sides of a separator.** -/
theorem words_append_separator (cs rest : List Char) :
    words isSeparator (cs ++ sep :: rest) = words isSeparator cs ++ words isSeparator rest := by
  unfold words
  rw [segments_append_separator h, List.filter_append]

end Separator

/-- Separators alone make no word. -/
theorem words_eq_nil {marks : List Char} (h : ∀ c ∈ marks, isSeparator c = true) :
    words isSeparator marks = [] := by
  induction marks with
  | nil => rfl
  | cons c rest ih =>
    have hrest := ih fun d hd => h d (List.mem_cons_of_mem _ hd)
    exact (words_append_separator (h c List.mem_cons_self) [] rest).trans hrest

/-- A text without separators is its only word. -/
theorem words_eq_singleton {word : List Char} (hne : word ≠ [])
    (hword : ∀ c ∈ word, isSeparator c = false) : words isSeparator word = [word] := by
  unfold words
  rw [segments_eq_singleton hword]
  exact List.filter_cons_of_pos (by simpa using hne)

/-- **Whatever stands between two texts**, as long as it is separators, their words are kept
    apart. -/
theorem words_append_gap {gap : List Char} (hne : gap ≠ [])
    (hgap : ∀ c ∈ gap, isSeparator c = true) (before after : List Char) :
    words isSeparator (before ++ (gap ++ after)) =
      words isSeparator before ++ words isSeparator after := by
  induction gap generalizing before with
  | nil => exact absurd rfl hne
  | cons c more ih =>
    have hc := hgap c List.mem_cons_self
    rw [List.cons_append, words_append_separator hc]
    cases more with
    | nil => rw [List.nil_append]
    | cons d more =>
      have hrest := ih (List.cons_ne_nil d more) (fun e he => hgap e (List.mem_cons_of_mem _ he)) []
      rw [List.nil_append] at hrest
      rw [hrest]
      rfl

/-- **Separators at the ends of a text** leave its words as they are. -/
theorem words_between {front back : List Char} (hfront : ∀ c ∈ front, isSeparator c = true)
    (hback : ∀ c ∈ back, isSeparator c = true) (cs : List Char) :
    words isSeparator (front ++ (cs ++ back)) = words isSeparator cs := by
  have hbehind : words isSeparator (cs ++ back) = words isSeparator cs := by
    cases back with
    | nil => rw [List.append_nil]
    | cons c rest =>
      rw [words_append_separator (hback c List.mem_cons_self),
        words_eq_nil fun d hd => hback d (List.mem_cons_of_mem _ hd), List.append_nil]
  cases front with
  | nil => exact hbehind
  | cons c rest =>
    have hgap := words_append_gap (List.cons_ne_nil c rest) hfront [] (cs ++ back)
    exact hgap.trans hbehind

/-- A text between separators is the one word. -/
theorem words_marked {word : List Char} (before after : List Char) (hne : word ≠ [])
    (hword : ∀ c ∈ word, isSeparator c = false) (hbefore : ∀ c ∈ before, isSeparator c = true)
    (hafter : ∀ c ∈ after, isSeparator c = true) :
    words isSeparator (before ++ (word ++ after)) = [word] := by
  rw [words_between hbefore hafter, words_eq_singleton hne hword]

/-! ## 2. Runs -/

/-- **The longest runs of other characters**, in their order. A run is not empty, and where it ends
    there is a separator or nothing. -/
inductive Runs (isSeparator : Char → Bool) : List Char → List (List Char) → Prop
  | nil : Runs isSeparator [] []
  | separator {c : Char} {rest : List Char} {runs : List (List Char)}
      (hc : isSeparator c = true) (hrest : Runs isSeparator rest runs) :
      Runs isSeparator (c :: rest) runs
  | run {run rest : List Char} {runs : List (List Char)} (hne : run ≠ [])
      (hrun : ∀ c ∈ run, isSeparator c = false) (hend : StopsAt (fun c => !isSeparator c) rest)
      (hrest : Runs isSeparator rest runs) : Runs isSeparator (run ++ rest) (run :: runs)

/-- The runs of a text are its words. -/
theorem Runs.eq_words {cs : List Char} {runs : List (List Char)} (h : Runs isSeparator cs runs) :
    runs = words isSeparator cs := by
  induction h with
  | nil => rfl
  | separator hc _ ih => exact ih.trans (words_append_separator hc [] _).symm
  | @run word rest runs hne hrun hend _ ih =>
    rw [ih]
    cases rest with
    | nil =>
      rw [List.append_nil, words_eq_singleton hne hrun]
      rfl
    | cons c rest =>
      have hc : isSeparator c = true := by simpa using hend c rfl
      have hbehind := words_append_separator hc [] rest
      rw [List.nil_append] at hbehind
      rw [words_append_separator hc, words_eq_singleton hne hrun, hbehind]
      rfl

/-- Every text comes apart in runs. -/
theorem exists_runs (isSeparator : Char → Bool) (cs : List Char) :
    ∃ runs, Runs isSeparator cs runs := by
  induction hlength : cs.length using Nat.strong_induction_on generalizing cs with
  | _ n ih =>
    cases cs with
    | nil => exact ⟨[], .nil⟩
    | cons c rest =>
      by_cases hc : isSeparator c = true
      · obtain ⟨runs, hruns⟩ := ih rest.length (by simp [← hlength]) rest rfl
        exact ⟨runs, .separator hc hruns⟩
      · -- the run is the longest one at the front, and the rest is shorter
        have hother : (!isSeparator c) = true := by simpa using hc
        let run := (c :: rest).takeWhile fun d => !isSeparator d
        let later := (c :: rest).dropWhile fun d => !isSeparator d
        have hsplit : run ++ later = c :: rest := List.takeWhile_append_dropWhile
        have hne : run ≠ [] := by
          show List.takeWhile (fun d => !isSeparator d) (c :: rest) ≠ []
          rw [List.takeWhile_cons_of_pos (p := fun d => !isSeparator d) hother]
          exact List.cons_ne_nil _ _
        have hshorter : later.length < n := by
          have hsum := congrArg List.length hsplit
          have hpos := List.length_pos_iff.mpr hne
          rw [List.length_append] at hsum
          omega
        obtain ⟨runs, hruns⟩ := ih later.length hshorter later rfl
        refine ⟨run :: runs, hsplit ▸ .run hne (fun d hd => ?_) (fun d hd => ?_) hruns⟩
        · simpa using eq_true_of_mem_takeWhile hd
        · have hstop := List.head?_dropWhile_not (fun d => !isSeparator d) (c :: rest)
          rw [show later.head? = some d from hd] at hstop
          simpa using hstop

/-- **The words of a text are its longest runs**, and there is one way only to take it apart. -/
theorem runs_iff {cs : List Char} {runs : List (List Char)} :
    Runs isSeparator cs runs ↔ runs = words isSeparator cs := by
  refine ⟨Runs.eq_words, fun h => ?_⟩
  obtain ⟨found, hfound⟩ := exists_runs isSeparator cs
  rw [h, ← hfound.eq_words]
  exact hfound

/-! ## 3. What words hold -/

theorem ne_nil_of_mem_words {cs word : List Char} (h : word ∈ words isSeparator cs) :
    word ≠ [] := by
  have hkept := (List.mem_filter.mp h).2
  simpa using hkept

theorem not_separator_of_mem_words {cs word : List Char} (h : word ∈ words isSeparator cs) :
    ∀ c ∈ word, isSeparator c = false :=
  not_separator_of_mem_segments (List.mem_filter.mp h).1

/-- **Put together, the words are the text without its separators.** -/
theorem flatten_words (isSeparator : Char → Bool) (cs : List Char) :
    (words isSeparator cs).flatten = cs.filter fun c => !isSeparator c := by
  have h : Runs isSeparator cs (words isSeparator cs) := runs_iff.mpr rfl
  generalize words isSeparator cs = runs at h
  induction h with
  | nil => rfl
  | separator hc _ ih => rw [ih, List.filter_cons_of_neg (by simp [hc])]
  | @run word rest runs _ hrun _ _ ih =>
    have hall : ∀ c ∈ word, (!isSeparator c) = true := fun c hc => by simp [hrun c hc]
    rw [List.flatten_cons, ih, List.filter_append, List.filter_eq_self.mpr hall]

end Words

end SampleSchema
