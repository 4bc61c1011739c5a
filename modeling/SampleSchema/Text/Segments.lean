/-!
# Cutting texts at separators

`segments` gives the pieces of a text between the characters of a class, the empty pieces too, so
there is one more piece than there are separators. `words` keeps the pieces that are not empty: the
maximal runs of other characters. No piece holds a separator (`not_separator_of_mem_segments`).
Lines are cut at line feeds, to which the other line ends can be folded.
-/

namespace SampleSchema

/-- The pieces of a text between the separators. -/
def segments (isSeparator : Char → Bool) : List Char → List (List Char)
  | [] => [[]]
  | c :: rest =>
    if isSeparator c then [] :: segments isSeparator rest
    else match segments isSeparator rest with
      | [] => [[c]]
      | piece :: more => (c :: piece) :: more

/-- The pieces that are not empty. -/
def words (isSeparator : Char → Bool) (cs : List Char) : List (List Char) :=
  (segments isSeparator cs).filter fun piece => !piece.isEmpty

/-- Line ends folded: CR LF and a lone CR become LF. -/
def foldLineEnds : List Char → List Char
  | [] => []
  | '\r' :: '\n' :: rest => '\n' :: foldLineEnds rest
  | '\r' :: rest => '\n' :: foldLineEnds rest
  | c :: rest => c :: foldLineEnds rest

/-- The lines of a text. -/
def lines (cs : List Char) : List (List Char) := segments (· == '\n') cs

theorem segments_ne_nil (isSeparator : Char → Bool) (cs : List Char) :
    segments isSeparator cs ≠ [] := by
  cases cs with
  | nil => simp [segments]
  | cons c rest =>
    simp only [segments]
    split
    · simp
    · split <;> simp

theorem not_separator_of_mem_segments {isSeparator : Char → Bool} {cs piece : List Char}
    (h : piece ∈ segments isSeparator cs) : ∀ c ∈ piece, isSeparator c = false := by
  induction cs generalizing piece with
  | nil =>
    simp only [segments, List.mem_singleton] at h
    simp [h]
  | cons c rest ih =>
    simp only [segments] at h
    by_cases hc : isSeparator c = true
    · simp only [hc, ↓reduceIte, List.mem_cons] at h
      rcases h with rfl | h
      · simp
      · exact ih h
    · simp only [hc, Bool.false_eq_true, ↓reduceIte] at h
      split at h
      · simp only [List.mem_singleton] at h
        subst h
        simpa using hc
      · rename_i first more heq
        simp only [List.mem_cons] at h
        rcases h with rfl | h
        · intro d hd
          simp only [List.mem_cons] at hd
          rcases hd with rfl | hd
          · simpa using hc
          · exact ih (by rw [heq]; exact List.mem_cons_self) d hd
        · exact ih (by rw [heq]; exact List.mem_cons_of_mem _ h)

/-- A text without separators is its only piece. -/
theorem segments_eq_singleton {isSeparator : Char → Bool} {cs : List Char}
    (h : ∀ c ∈ cs, isSeparator c = false) : segments isSeparator cs = [cs] := by
  induction cs with
  | nil => rfl
  | cons c rest ih =>
    have hc := h c List.mem_cons_self
    have hr := ih fun d hd => h d (List.mem_cons_of_mem _ hd)
    simp [segments, hc, hr]

/-- Up to a first separator lies the first piece; the others come from what follows it. -/
theorem segments_append_cons {isSeparator : Char → Bool} {cs : List Char} {sep : Char}
    (h : ∀ c ∈ cs, isSeparator c = false) (hsep : isSeparator sep = true) (rest : List Char) :
    segments isSeparator (cs ++ sep :: rest) = cs :: segments isSeparator rest := by
  induction cs with
  | nil => simp [segments, hsep]
  | cons c more ih =>
    have hc := h c List.mem_cons_self
    have hr := ih fun d hd => h d (List.mem_cons_of_mem _ hd)
    simp [segments, hc, hr]

end SampleSchema
