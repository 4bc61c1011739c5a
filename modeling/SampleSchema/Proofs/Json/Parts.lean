import SampleSchema.Proofs.Json.Numbers
import SampleSchema.Proofs.Json.Strings

/-!
# What the reader takes off a text

What each of the three functions of the reader can do is said once, as a step relation
(`Reader.valueStep`, `Reader.elementsStep`, `Reader.membersStep`). From it follows, by induction on
the fuel, that they take a value, the items of an array, or the members of an object off a text, as
the text denotes them (`Reader.readsParts`). The only fault that is none of the text itself is an
integer with too many digits, and such a text holds one (`Reader.refusesLongIntegers`).
-/

namespace SampleSchema

/-! ## 1. Gaps -/

theorem isGap_nil : IsGap [] := by
  intro c hc
  cases hc

/-- No numeral goes on with a blank. -/
theorem isNumeralPart_of_isJsonBlank {c : Char} (h : isJsonBlank c = true) :
    isNumeralPart c = false := by
  unfold isJsonBlank at h
  simp only [Bool.or_eq_true, beq_iff_eq] at h
  rcases h with ((rfl | rfl) | rfl) | rfl
  · decide
  · decide
  · decide
  · decide

theorem stopsAt_gap {gap : List Char} (hgap : IsGap gap) {c : Char} (hc : isNumeralPart c = false)
    (rest : List Char) : StopsAt isNumeralPart (gap ++ c :: rest) := by
  cases gap with
  | nil => exact stopsAt_cons hc rest
  | cons d gap =>
    exact stopsAt_cons (isNumeralPart_of_isJsonBlank (hgap d List.mem_cons_self)) _

theorem stopsAt_of_isGap {gap : List Char} (hgap : IsGap gap) : StopsAt isNumeralPart gap := by
  intro c hc
  exact isNumeralPart_of_isJsonBlank (hgap c (List.mem_of_head? hc))

namespace Reader

/-- Blanks are skipped, and nothing behind them. -/
theorem skipBlanks_append {gap rest : List Char} (hgap : IsGap gap)
    (hrest : StopsAt isJsonBlank rest) : skipBlanks (gap ++ rest) = rest :=
  dropWhile_append_of_stopsAt hgap hrest

theorem exists_gap (cs : List Char) : ∃ gap, IsGap gap ∧ cs = gap ++ skipBlanks cs :=
  ⟨cs.takeWhile isJsonBlank, fun _ hc => eq_true_of_mem_takeWhile hc,
    List.takeWhile_append_dropWhile.symm⟩

theorem exists_of_skipBlanks {cs rest : List Char} (h : skipBlanks cs = rest) :
    ∃ gap, IsGap gap ∧ cs = gap ++ rest := by
  rw [← h]
  exact exists_gap cs

/-! ## 2. What the reader can do -/

/-- Whatever is wrong with a string, it is malformed. -/
theorem exists_malformed_of_stringRest {opened : List Char} {lexing : Lexing} {high : Option Nat}
    {read : RawText} {cs : List Char} {halt : Halt}
    (h : stringRest opened lexing high read cs = .error halt) :
    ∃ flaw left, halt = .malformed flaw left := by
  -- each case halts with a flaw, closes the string, or goes on with the rest
  fun_induction stringRest opened lexing high read cs <;>
    first
    | (cases h <;> exact ⟨_, _, rfl⟩)
    | (rename_i ih; exact ih h)

/-- **How a value is read**, with so much fuel for its parts. -/
inductive ValueStep (fuel : Nat) : List Char → Outcome RawJson → Prop
  | malformed {cs : List Char} {flaw : Flaw} {left : Nat} :
      ValueStep fuel cs (.error (.malformed flaw left))
  | string {raw rest : List Char} {s : RawText} (h : SpellsString raw s) :
      ValueStep fuel ('"' :: (raw ++ '"' :: rest)) (.ok (.str s, rest))
  | emptyArray {gap rest : List Char} (hgap : IsGap gap) :
      ValueStep fuel ('[' :: (gap ++ ']' :: rest)) (.ok (.arr [], rest))
  | array {gap rest : List Char} {res : Outcome RawJson} (hgap : IsGap gap)
      (h : elements fuel [] rest = res) : ValueStep fuel ('[' :: (gap ++ rest)) res
  | emptyObject {gap rest : List Char} (hgap : IsGap gap) :
      ValueStep fuel ('{' :: (gap ++ '}' :: rest)) (.ok (.obj [], rest))
  | object {gap rest : List Char} {res : Outcome RawJson} (hgap : IsGap gap)
      (h : objectRest fuel [] rest = res) : ValueStep fuel ('{' :: (gap ++ rest)) res
  | atom {cs : List Char} {res : Outcome RawJson} (h : atom cs = res) : ValueStep fuel cs res

theorem valueStep (fuel : Nat) (cs : List Char) : ValueStep fuel cs (value (fuel + 1) cs) := by
  unfold value
  split
  · exact .malformed
  · rename_i c behind
    split
    · rename_i hquote
      subst hquote
      split
      · rename_i hstring
        obtain ⟨raw, rfl, hraw⟩ := exists_of_string hstring
        exact .string hraw
      · rename_i hstring
        obtain ⟨flaw, left, rfl⟩ := exists_malformed_of_stringRest hstring
        exact .malformed
    · split
      · rename_i hopen
        subst hopen
        obtain ⟨gap, hgap, hbehind⟩ := exists_gap behind
        split
        · rename_i hskip
          rw [hbehind, hskip]
          exact .emptyArray hgap
        · rw [hbehind]
          exact .array hgap (by rw [← hbehind])
      · split
        · rename_i hopen
          subst hopen
          obtain ⟨gap, hgap, hbehind⟩ := exists_gap behind
          split
          · rename_i hskip
            rw [hbehind, hskip]
            exact .emptyObject hgap
          · rw [hbehind]
            exact .object hgap (by rw [← hbehind])
        · exact .atom rfl

/-- **How the items of an array are read on**, with so much fuel for each. -/
inductive ElementsStep (fuel : Nat) (read : List RawJson) : List Char → Outcome RawJson → Prop
  | malformed {cs : List Char} {flaw : Flaw} {left : Nat} :
      ElementsStep fuel read cs (.error (.malformed flaw left))
  | badItem {cs : List Char} {halt : Halt} (h : value fuel cs = .error halt) :
      ElementsStep fuel read cs (.error halt)
  | lastItem {cs gap rest : List Char} {v : RawJson}
      (h : value fuel cs = .ok (v, gap ++ ']' :: rest)) (hgap : IsGap gap) :
      ElementsStep fuel read cs (.ok (.arr (v :: read).reverse, rest))
  | item {cs gap gap' rest : List Char} {v : RawJson} {res : Outcome RawJson}
      (h : value fuel cs = .ok (v, gap ++ ',' :: (gap' ++ rest))) (hgap : IsGap gap)
      (hgap' : IsGap gap') (hrest : elements fuel (v :: read) rest = res) :
      ElementsStep fuel read cs res

theorem elementsStep (fuel : Nat) (read : List RawJson) (cs : List Char) :
    ElementsStep fuel read cs (elements (fuel + 1) read cs) := by
  unfold elements
  split
  · rename_i hvalue
    exact .badItem hvalue
  · rename_i v after hvalue
    obtain ⟨gap, hgap, hafter⟩ := exists_gap after
    split
    · rename_i hskip
      rw [hafter, hskip] at hvalue
      exact .lastItem hvalue hgap
    · rename_i r hskip
      obtain ⟨gap', hgap', hr⟩ := exists_gap r
      rw [hafter, hskip, hr] at hvalue
      exact .item hvalue hgap hgap' rfl
    · exact .malformed

/-- **How the members of an object are read on**, with so much fuel for each. -/
inductive MembersStep (fuel : Nat) (read : List (RawText × RawJson)) :
    List Char → Outcome RawJson → Prop
  | malformed {cs : List Char} {flaw : Flaw} {left : Nat} :
      MembersStep fuel read cs (.error (.malformed flaw left))
  | badMember {key gap gap' cs : List Char} {s : RawText} {halt : Halt} (hkey : SpellsString key s)
      (hcolon : IsGap gap) (hcolon' : IsGap gap') (h : value fuel cs = .error halt) :
      MembersStep fuel read ('"' :: (key ++ '"' :: (gap ++ ':' :: (gap' ++ cs)))) (.error halt)
  | lastMember {key gap gap' cs last rest : List Char} {s : RawText} {v : RawJson}
      (hkey : SpellsString key s) (hcolon : IsGap gap) (hcolon' : IsGap gap')
      (h : value fuel cs = .ok (v, last ++ '}' :: rest)) (hgap : IsGap last) :
      MembersStep fuel read ('"' :: (key ++ '"' :: (gap ++ ':' :: (gap' ++ cs))))
        (.ok (.obj (Entries.put read s v), rest))
  | member {key gap gap' cs before after rest : List Char} {s : RawText} {v : RawJson}
      {res : Outcome RawJson} (hkey : SpellsString key s) (hcolon : IsGap gap) (hcolon' : IsGap gap')
      (h : value fuel cs = .ok (v, before ++ ',' :: (after ++ rest))) (hgap : IsGap before)
      (hgap' : IsGap after) (hrest : objectRest fuel (Entries.put read s v) rest = res) :
      MembersStep fuel read ('"' :: (key ++ '"' :: (gap ++ ':' :: (gap' ++ cs)))) res

theorem membersStep (fuel : Nat) (read : List (RawText × RawJson)) (cs : List Char) :
    MembersStep fuel read cs (objectRest (fuel + 1) read cs) := by
  unfold objectRest
  split
  · split
    · rename_i hstring
      obtain ⟨flaw, left, rfl⟩ := exists_malformed_of_stringRest hstring
      exact .malformed
    · rename_i key afterKey hstring
      obtain ⟨raw, rfl, hraw⟩ := exists_of_string hstring
      split
      · rename_i afterColon hskip
        obtain ⟨gap, hgap, rfl⟩ := exists_of_skipBlanks hskip
        obtain ⟨gap', hgap', hcolon⟩ := exists_gap afterColon
        rw [hcolon]
        split
        · rename_i hvalue
          rw [← hcolon] at hvalue
          exact .badMember hraw hgap hgap' hvalue
        · rename_i v after hvalue
          rw [← hcolon] at hvalue
          obtain ⟨before, hbefore, hafter⟩ := exists_gap after
          dsimp only
          split
          · rename_i hclose
            rw [hafter, hclose] at hvalue
            exact .lastMember hraw hgap hgap' hvalue hbefore
          · rename_i r hcomma
            obtain ⟨behind, hbehind, hr⟩ := exists_gap r
            rw [hafter, hcomma, hr] at hvalue
            exact .member hraw hgap hgap' hvalue hbefore hbehind rfl
          · exact .malformed
      · exact .malformed
  · exact .malformed

/-! ## 3. What is read is denoted -/

/-- The members of an object put among others, one after the other. -/
def putAll (read ms : List (RawText × RawJson)) : List (RawText × RawJson) :=
  ms.foldl (fun d p => Entries.put d p.1 p.2) read

/-- **What the reader takes off a text**, with so much fuel. -/
structure ReadsParts (fuel : Nat) : Prop where
  value : ∀ {cs v rest}, value fuel cs = .ok (v, rest) →
    ∃ body, cs = body ++ rest ∧ Denotes body (.value v)
  elements : ∀ {read cs v rest}, elements fuel read cs = .ok (v, rest) →
    ∃ body items, cs = body ++ ']' :: rest ∧ Denotes body (.items items) ∧
      v = .arr (read.reverse ++ items)
  objectRest : ∀ {read cs v rest}, objectRest fuel read cs = .ok (v, rest) →
    ∃ body ms, cs = body ++ '}' :: rest ∧ Denotes body (.members ms) ∧ v = .obj (putAll read ms)

theorem readsParts_zero : ReadsParts 0 where
  value h := by cases h
  elements h := by cases h
  objectRest h := by cases h

section Step

variable {fuel : Nat} (ih : ReadsParts fuel)
include ih

theorem exists_of_value {cs rest : List Char} {v : RawJson}
    (h : value (fuel + 1) cs = .ok (v, rest)) :
    ∃ body, cs = body ++ rest ∧ Denotes body (.value v) := by
  have hstep := valueStep fuel cs
  rw [h] at hstep
  cases hstep with
  | string hraw => exact ⟨_, by simp, .string hraw⟩
  | emptyArray hgap => exact ⟨_, by simp, .emptyArray hgap⟩
  | array hgap hrest =>
    obtain ⟨body, items, rfl, hitems, rfl⟩ := ih.elements hrest
    exact ⟨_, by simp, .array hgap hitems⟩
  | emptyObject hgap => exact ⟨_, by simp, .emptyObject hgap⟩
  | object hgap hrest =>
    obtain ⟨body, ms, rfl, hms, rfl⟩ := ih.objectRest hrest
    exact ⟨_, by simp, .object hgap hms⟩
  | atom hatom =>
    obtain ⟨body, hcs, hword | hnumber⟩ := exists_of_atom hatom
    · exact ⟨body, hcs, .word hword⟩
    · exact ⟨body, hcs, .number hnumber⟩

theorem exists_of_elements {read : List RawJson} {cs rest : List Char} {v : RawJson}
    (h : elements (fuel + 1) read cs = .ok (v, rest)) :
    ∃ body items, cs = body ++ ']' :: rest ∧ Denotes body (.items items) ∧
      v = .arr (read.reverse ++ items) := by
  have hstep := elementsStep fuel read cs
  rw [h] at hstep
  cases hstep with
  | lastItem hvalue hgap =>
    obtain ⟨body, rfl, hbody⟩ := ih.value hvalue
    exact ⟨_, _, by simp, .lastItem hbody hgap, by simp⟩
  | item hvalue hgap hgap' hrest =>
    obtain ⟨body, rfl, hbody⟩ := ih.value hvalue
    obtain ⟨more, items, rfl, hitems, rfl⟩ := ih.elements hrest
    exact ⟨_, _, by simp, .item hbody hgap hgap' hitems, by simp⟩

theorem exists_of_objectRest {read : List (RawText × RawJson)} {cs rest : List Char} {v : RawJson}
    (h : objectRest (fuel + 1) read cs = .ok (v, rest)) :
    ∃ body ms, cs = body ++ '}' :: rest ∧ Denotes body (.members ms) ∧
      v = .obj (putAll read ms) := by
  have hstep := membersStep fuel read cs
  rw [h] at hstep
  cases hstep with
  | lastMember hkey hcolon hcolon' hvalue hgap =>
    obtain ⟨body, rfl, hbody⟩ := ih.value hvalue
    exact ⟨_, _, by simp, .lastMember (.member hkey hcolon hcolon' hbody) hgap, rfl⟩
  | member hkey hcolon hcolon' hvalue hgap hgap' hrest =>
    obtain ⟨body, rfl, hbody⟩ := ih.value hvalue
    obtain ⟨more, ms, rfl, hms, rfl⟩ := ih.objectRest hrest
    exact ⟨_, _, by simp, .more (.member hkey hcolon hcolon' hbody) hgap hgap' hms, rfl⟩

end Step

/-- **Whatever the fuel, what the reader takes off a text is denoted by it.** -/
theorem readsParts (fuel : Nat) : ReadsParts fuel := by
  induction fuel with
  | zero => exact readsParts_zero
  | succ fuel ih => exact ⟨exists_of_value ih, exists_of_elements ih, exists_of_objectRest ih⟩

/-! ## 4. Integers with too many digits -/

/-- **A text holds an integer with too many digits.** -/
def HoldsLongInteger (cs : List Char) (n : Nat) : Prop :=
  ∃ before whole rest, cs = before ++ (whole ++ rest) ∧ IsWhole whole ∧ whole.length = n ∧
    Numeral.maxDigits < n

theorem HoldsLongInteger.append {rest : List Char} {n : Nat} (h : HoldsLongInteger rest n)
    (front : List Char) : HoldsLongInteger (front ++ rest) n := by
  obtain ⟨before, whole, behind, rfl, hwhole⟩ := h
  exact ⟨front ++ before, whole, behind, (List.append_assoc _ _ _).symm, hwhole⟩

/-- An integer behind a comma. -/
theorem HoldsLongInteger.behind {body gap gap' rest : List Char} {n : Nat}
    (h : HoldsLongInteger rest n) :
    HoldsLongInteger (body ++ (gap ++ ',' :: (gap' ++ rest))) n :=
  (((h.append gap').append [',']).append gap).append body

/-- An integer behind the colon of a member. -/
theorem HoldsLongInteger.member {key gap gap' cs : List Char} {n : Nat}
    (h : HoldsLongInteger cs n) :
    HoldsLongInteger ('"' :: (key ++ '"' :: (gap ++ ':' :: (gap' ++ cs)))) n :=
  (((((h.append gap').append [':']).append gap).append ['"']).append key).append ['"']

theorem holdsLongInteger_of_skipBlanks {cs : List Char} {n : Nat}
    (h : HoldsLongInteger (skipBlanks cs) n) : HoldsLongInteger cs n := by
  obtain ⟨gap, _, hcs⟩ := exists_gap cs
  rw [hcs]
  exact h.append gap

/-- **Where the digits are too many**, with so much fuel. -/
structure RefusesLongIntegers (fuel : Nat) : Prop where
  value : ∀ {cs n}, value fuel cs = .error (.tooManyDigits n) → HoldsLongInteger cs n
  elements : ∀ {read cs n}, elements fuel read cs = .error (.tooManyDigits n) →
    HoldsLongInteger cs n
  objectRest : ∀ {read cs n}, objectRest fuel read cs = .error (.tooManyDigits n) →
    HoldsLongInteger cs n

theorem refusesLongIntegers_zero : RefusesLongIntegers 0 where
  value h := by cases h
  elements h := by cases h
  objectRest h := by cases h

section Refuse

variable {fuel : Nat} (ih : RefusesLongIntegers fuel)
include ih

theorem holdsLongInteger_of_value {cs : List Char} {n : Nat}
    (h : value (fuel + 1) cs = .error (.tooManyDigits n)) : HoldsLongInteger cs n := by
  have hstep := valueStep fuel cs
  rw [h] at hstep
  cases hstep with
  | array _ hrest => exact ((ih.elements hrest).append _).append ['[']
  | object _ hrest => exact ((ih.objectRest hrest).append _).append ['{']
  | atom hatom => exact exists_of_atom_error hatom

theorem holdsLongInteger_of_elements {read : List RawJson} {cs : List Char} {n : Nat}
    (h : elements (fuel + 1) read cs = .error (.tooManyDigits n)) : HoldsLongInteger cs n := by
  have hstep := elementsStep fuel read cs
  rw [h] at hstep
  cases hstep with
  | badItem hvalue => exact ih.value hvalue
  | item hvalue _ _ hrest =>
    obtain ⟨body, rfl, _⟩ := (readsParts fuel).value hvalue
    exact (ih.elements hrest).behind

theorem holdsLongInteger_of_objectRest {read : List (RawText × RawJson)} {cs : List Char} {n : Nat}
    (h : objectRest (fuel + 1) read cs = .error (.tooManyDigits n)) : HoldsLongInteger cs n := by
  have hstep := membersStep fuel read cs
  rw [h] at hstep
  cases hstep with
  | badMember _ _ _ hvalue => exact (ih.value hvalue).member
  | member _ _ _ hvalue _ _ hrest =>
    obtain ⟨body, rfl, _⟩ := (readsParts fuel).value hvalue
    exact (ih.objectRest hrest).behind.member

end Refuse

/-- **Whatever the fuel, what is refused for its digits is an integer of the text.** -/
theorem refusesLongIntegers (fuel : Nat) : RefusesLongIntegers fuel := by
  induction fuel with
  | zero => exact refusesLongIntegers_zero
  | succ fuel ih =>
    exact ⟨holdsLongInteger_of_value ih, holdsLongInteger_of_elements ih,
      holdsLongInteger_of_objectRest ih⟩

end Reader

end SampleSchema
