import SampleSchema.Naming

/-!
# Upper-case forms

What the tables of upper-case forms have to be like for a name to stay as it is once its words begin
in upper case (`exists_upper`): the form of a character is not empty, holds no separator of words if
the character is none, and its own first character is in upper case already.

The tables are checked span by span, and not character by character: where a span leads to lies
outside of every span that is moved, or between the characters of one that leaves out every second
(`CaseSpan.misses`). A character of which the form has several characters is a span of its own
here.
-/

namespace SampleSchema

namespace CaseSpan

/-! ## 1. Spans and where they lead to -/

/-- Where a span leads a character. -/
def image (s : CaseSpan) (code : Nat) : Nat := (code + s.shift).toNat

/-- A span of one character. -/
def single (code : Nat) : CaseSpan := ⟨code, code, 1, 0⟩

/-- **A span does not hold what lies between two numbers**; where all of that is even or all is odd,
    it may lie between the characters of a span with gaps. -/
def misses (t : CaseSpan) (first last : Nat) (sameParity : Bool) : Bool :=
  Nat.blt last t.first || Nat.blt t.last first ||
    (sameParity && Nat.beq t.step 2 && Nat.beq ((first + t.first) % 2) 1)

/-- No span of a list holds what a span leads to. -/
def leadsOutside (s : CaseSpan) (spans : List CaseSpan) : Bool :=
  Nat.blt 0 (s.image s.first) &&
    spans.all fun t => t.misses (s.image s.first) (s.image s.last)
      (Nat.beq s.step 2 || Nat.beq s.first s.last)

theorem holds_eq_false_of_misses {t : CaseSpan} {first last code : Nat} {sameParity : Bool}
    (h : t.misses first last sameParity = true) (hfirst : first ≤ code) (hlast : code ≤ last)
    (hparity : sameParity = true → code % 2 = first % 2) : t.holds code = false := by
  unfold misses at h
  unfold holds
  simp only [Bool.or_eq_true, Bool.and_eq_true, Nat.blt_eq, Nat.beq_eq] at h
  simp only [Bool.and_eq_false_iff, decide_eq_false_iff_not, beq_eq_false_iff_ne]
  rcases h with (h | h) | ⟨⟨hsame, hstep⟩, hodd⟩
  · exact Or.inl (Or.inl (by omega))
  · exact Or.inl (Or.inr (by omega))
  · have hcode := hparity hsame
    by_cases hge : t.first ≤ code
    · exact Or.inr (by rw [hstep]; omega)
    · exact Or.inl (Or.inl hge)

/-- **What a span leads to is outside of the others.** -/
theorem holds_image_eq_false {s : CaseSpan} {spans : List CaseSpan}
    (h : s.leadsOutside spans = true) {code : Nat} (hcode : s.holds code = true) :
    ∀ t ∈ spans, t.holds (s.image code) = false := by
  intro t ht
  obtain ⟨hpos, hall⟩ := Bool.and_eq_true_iff.mp h
  have hmisses := List.all_eq_true.mp hall t ht
  rw [Nat.blt_eq] at hpos
  unfold image at hpos
  unfold holds at hcode
  simp only [Bool.and_eq_true, decide_eq_true_eq, beq_iff_eq] at hcode
  obtain ⟨⟨hfirst, hlast⟩, hstep⟩ := hcode
  refine holds_eq_false_of_misses hmisses ?_ ?_ fun hsame => ?_
  · unfold image
    omega
  · unfold image
    omega
  · simp only [Bool.or_eq_true, Nat.beq_eq] at hsame
    unfold image
    rcases hsame with htwo | hone
    · rw [htwo] at hstep
      omega
    · have hcode : code = s.first := by omega
      rw [hcode]

end CaseSpan

/-! ## 2. Characters that are moved, and separators -/

/-- The characters that have an upper-case form other than themselves. -/
def movedSpans : List CaseSpan := upperSpans ++ upperSequences.map fun e => .single e.1

/-- The separators of words. -/
def separatorSpans : List CaseSpan := [
  ⟨0x09, 0x0D, 1, 0⟩, ⟨0x1C, 0x20, 1, 0⟩, .single 0x2D, .single 0x5F, .single 0x85, .single 0xA0,
  .single 0x1680, ⟨0x2000, 0x200A, 1, 0⟩, ⟨0x2028, 0x2029, 1, 0⟩, .single 0x202F, .single 0x205F,
  .single 0x3000]

/-- A character in upper case that separates nothing. -/
def isSettled (code : Nat) : Prop :=
  ∀ t ∈ movedSpans ++ separatorSpans, t.holds code = false

theorem holds_single (code : Nat) : (CaseSpan.single code).holds code = true := by
  simp [CaseSpan.holds, CaseSpan.single]

/-- What is not moved is its own form. -/
theorem upper_eq_self {c : Char} (h : isSettled c.toNat) : upper c = [c] := by
  have hsequence : upperSequences.lookup c.toNat = none := by
    refine List.lookup_eq_none_iff.mpr fun e he => ?_
    refine bne_iff_ne.mpr fun heq => ?_
    have hout := h (.single e.1) (List.mem_append_left _
      (List.mem_append_right _ (List.mem_map_of_mem he)))
    rw [heq, holds_single] at hout
    cases hout
  have hspan : upperSpans.find? (·.holds c.toNat) = none := by
    refine List.find?_eq_none.mpr fun s hs => ?_
    rw [h s (List.mem_append_left _ (List.mem_append_left _ hs))]
    exact Bool.false_ne_true
  unfold upper caseImage
  rw [hsequence, hspan]

theorem not_separator_of_isSettled {c : Char} (h : isSettled c.toNat) :
    isWordSeparator c = false := by
  have hout : ∀ t ∈ separatorSpans, t.holds c.toNat = false := fun t ht =>
    h t (List.mem_append_right _ ht)
  have hminus : c = '-' ↔ c.toNat = 0x2D := by
    rw [← Char.toNat_inj]
    rfl
  have hunderscore : c = '_' ↔ c.toNat = 0x5F := by
    rw [← Char.toNat_inj]
    rfl
  simp only [separatorSpans, CaseSpan.single, CaseSpan.holds, List.mem_cons, List.not_mem_nil,
    or_false, forall_eq_or_imp, forall_eq, Bool.and_eq_false_iff, decide_eq_false_iff_not,
    beq_eq_false_iff_ne] at hout
  simp only [isWordSeparator, isBlank, isWhiteSpace, isAsciiBlank, Bool.or_eq_false_iff,
    Bool.and_eq_false_iff, beq_eq_false_iff_ne, decide_eq_false_iff_not, hminus, hunderscore,
    List.contains_eq_mem, List.mem_cons, List.not_mem_nil, or_false, ne_eq]
  omega

/-- No span leads to a character that is moved, or to a separator. -/
theorem upperSpans_leadOutside :
    (upperSpans.all fun s => s.leadsOutside (movedSpans ++ separatorSpans)) = true := by
  decide +kernel

/-- Nor does a sequence, and none is empty. -/
theorem upperSequences_leadOutside :
    (upperSequences.all fun e => !e.2.isEmpty && e.2.all fun code =>
      (CaseSpan.single code).leadsOutside (movedSpans ++ separatorSpans)) = true := by
  decide +kernel

/-! ## 3. Forms -/

/-- A number is that of its character, or else the character is the first of all. -/
theorem isSettled_toNat_ofNat {code : Nat} (h : isSettled code) :
    isSettled (Char.ofNat code).toNat := by
  have hzero : ∀ t ∈ movedSpans ++ separatorSpans, t.holds 0 = false := by decide +kernel
  by_cases hvalid : code.isValidChar
  · rw [Char.ofNat, dif_pos hvalid]
    exact h
  · rw [Char.ofNat, dif_neg hvalid]
    exact hzero

/-- **The upper-case form of a character**: the character itself, or characters in upper case. -/
theorem upper_cases (c : Char) :
    upper c = [c] ∨ upper c ≠ [] ∧ ∀ d ∈ upper c, isSettled d.toNat := by
  unfold upper caseImage
  split
  · rename_i codes hlookup
    obtain ⟨before, after, hsequences, _⟩ := List.lookup_eq_some_iff.mp hlookup
    have hmem : (c.toNat, codes) ∈ upperSequences := by
      rw [hsequences]
      exact List.mem_append_right _ List.mem_cons_self
    obtain ⟨hne, hout⟩ := Bool.and_eq_true_iff.mp
      (List.all_eq_true.mp upperSequences_leadOutside _ hmem)
    refine Or.inr ⟨by simpa using hne, fun d hd => ?_⟩
    obtain ⟨code, hcode, rfl⟩ := List.mem_map.mp hd
    have hsettled := CaseSpan.holds_image_eq_false (List.all_eq_true.mp hout code hcode)
      (holds_single code)
    exact isSettled_toNat_ofNat hsettled
  · split
    · rename_i s hfind
      have hout := List.all_eq_true.mp upperSpans_leadOutside s (List.mem_of_find?_eq_some hfind)
      have hholds : s.holds c.toNat = true :=
        List.find?_some (p := fun s : CaseSpan => s.holds c.toNat) hfind
      refine Or.inr ⟨List.cons_ne_nil _ _, fun d hd => ?_⟩
      rw [List.mem_singleton.mp hd]
      exact isSettled_toNat_ofNat (CaseSpan.holds_image_eq_false hout hholds)
    · exact Or.inl rfl

/-- **The upper-case form of a character that separates no words**: it is not empty, separates no
    words either, and its first character is in upper case. -/
theorem exists_upper {c : Char} (hc : isWordSeparator c = false) :
    ∃ d more, upper c = d :: more ∧ upper d = [d] ∧
      ∀ e ∈ upper c, isWordSeparator e = false := by
  rcases upper_cases c with hself | ⟨hne, hsettled⟩
  · refine ⟨c, [], hself, hself, fun e he => ?_⟩
    rw [hself] at he
    rw [List.mem_singleton.mp he]
    exact hc
  · obtain ⟨d, more, hform⟩ := List.exists_cons_of_ne_nil hne
    have hd : d ∈ upper c := by
      rw [hform]
      exact List.mem_cons_self
    exact ⟨d, more, hform, upper_eq_self (hsettled d hd), fun e he =>
      not_separator_of_isSettled (hsettled e he)⟩

end SampleSchema
