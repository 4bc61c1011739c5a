import SampleSchema.Proofs.Json.Grammar
import SampleSchema.Proofs.Lists

/-!
# Reading numbers and words

A value without parts, other than a string, is read exactly as the grammar has it: what is read is
spelled so (`exists_of_atom`), and what is spelled so is read, if what follows does not carry on
with a numeral (`atom_of_word`, `atom_of_spells`). An integer with too many digits is the one numeral
that is refused (`exists_of_atom_error`).
-/

namespace SampleSchema

/-- Can a numeral go on with this character? -/
def isNumeralPart (c : Char) : Bool := isAsciiDigit c || c == '.' || c == 'e' || c == 'E'

/-- Where no numeral goes on, no digits do. -/
theorem StopsAt.digits {cs : List Char} (h : StopsAt isNumeralPart cs) : StopsAt isAsciiDigit cs := by
  intro c hc
  have hpart := h c hc
  unfold isNumeralPart at hpart
  simp only [Bool.or_eq_false_iff] at hpart
  exact hpart.1.1.1

namespace Reader

/-! ## 1. Digits -/

section Digits

variable {digits rest : List Char}

theorem takeWhile_digits (h : IsDigits digits) (hrest : StopsAt isAsciiDigit rest) :
    (digits ++ rest).takeWhile isAsciiDigit = digits :=
  takeWhile_append_of_stopsAt h.2 hrest

theorem dropWhile_digits (h : IsDigits digits) (hrest : StopsAt isAsciiDigit rest) :
    (digits ++ rest).dropWhile isAsciiDigit = rest :=
  dropWhile_append_of_stopsAt h.2 hrest

theorem isDigits_takeWhile {cs : List Char} (h : cs.takeWhile isAsciiDigit ≠ []) :
    IsDigits (cs.takeWhile isAsciiDigit) :=
  ⟨h, fun _ hc => eq_true_of_mem_takeWhile hc⟩

/-- A digit is none of the other characters of a numeral. -/
theorem ne_of_isAsciiDigit {c : Char} (h : isAsciiDigit c = true) {d : Char}
    (hd : isAsciiDigit d = false) : c ≠ d := by
  rintro rfl
  rw [h] at hd
  cases hd

/-- Digits begin with one. -/
theorem exists_cons_of_isDigits (h : IsDigits digits) :
    ∃ c more, digits = c :: more ∧ isAsciiDigit c = true := by
  cases hdigits : digits with
  | nil => exact absurd hdigits h.1
  | cons c more => exact ⟨c, more, rfl, h.2 c (hdigits ▸ List.mem_cons_self)⟩

end Digits

/-! ## 2. The parts of a number -/

theorem isWhole_of_integerPart {cs whole rest : List Char} (h : integerPart cs = (whole, rest))
    (hne : whole ≠ []) : cs = whole ++ rest ∧ IsWhole whole := by
  unfold integerPart at h
  split at h
  · cases h
    exact ⟨rfl, ⟨hne, List.forall_mem_singleton.mpr (by decide)⟩, Or.inl rfl⟩
  · rename_i hzero
    cases h
    refine ⟨List.takeWhile_append_dropWhile.symm, isDigits_takeWhile hne, Or.inr fun hhead => ?_⟩
    cases cs with
    | nil => cases hhead
    | cons c cs =>
      have hc : c = '0' := by
        rw [List.takeWhile_cons] at hhead
        split at hhead
        · exact Option.some.inj hhead
        · cases hhead
      exact hzero cs (congrArg (· :: cs) hc)

theorem integerPart_of_isWhole {whole rest : List Char} (h : IsWhole whole)
    (hrest : StopsAt isAsciiDigit rest) : integerPart (whole ++ rest) = (whole, rest) := by
  obtain ⟨hdigits, hzero | hhead⟩ := h
  · rw [hzero]
    rfl
  · obtain ⟨c, more, rfl, _⟩ := exists_cons_of_isDigits hdigits
    have htake := takeWhile_digits hdigits hrest
    have hdrop := dropWhile_digits hdigits hrest
    rw [List.cons_append] at htake hdrop ⊢
    unfold integerPart
    split
    · rename_i heq
      exact absurd (congrArg some (List.cons.inj heq).1) hhead
    · rw [htake, hdrop]

theorem exists_of_fractionPart {cs digits rest : List Char}
    (h : fractionPart cs = some (digits, rest)) : cs = pointed digits ++ rest ∧ IsDigits digits := by
  unfold fractionPart at h
  split at h
  · rename_i behind
    dsimp only at h
    split at h
    · cases h
    · rename_i hempty
      have hne : behind.takeWhile isAsciiDigit ≠ [] := by simpa using hempty
      cases h
      rw [pointed_of_ne_nil hne]
      exact ⟨congrArg _ List.takeWhile_append_dropWhile.symm, isDigits_takeWhile hne⟩
  · cases h

theorem fractionPart_of_isDigits {digits rest : List Char} (h : IsDigits digits)
    (hrest : StopsAt isAsciiDigit rest) :
    fractionPart (pointed digits ++ rest) = some (digits, rest) := by
  have hne : ¬ digits.isEmpty = true := by simp [h.1]
  rw [pointed_of_ne_nil h.1]
  show (if ((digits ++ rest).takeWhile isAsciiDigit).isEmpty then none
    else some ((digits ++ rest).takeWhile isAsciiDigit, (digits ++ rest).dropWhile isAsciiDigit)) = _
  rw [takeWhile_digits h hrest, dropWhile_digits h hrest, if_neg hne]

theorem fractionPart_eq_none {cs : List Char} (h : cs.head? ≠ some '.') :
    fractionPart cs = none := by
  unfold fractionPart
  split
  · exact absurd rfl h
  · rfl

/-- The value of digits behind a sign, and what follows them. -/
def signedDigits (negative : Bool) (body : List Char) : Option (Int × List Char) :=
  if (body.takeWhile isAsciiDigit).isEmpty then none
  else some (Numeral.signed negative (Numeral.value (body.takeWhile isAsciiDigit)),
    body.dropWhile isAsciiDigit)

theorem exists_of_signedDigits {negative : Bool} {body rest : List Char} {e : Int}
    (h : signedDigits negative body = some (e, rest)) :
    ∃ digits, body = digits ++ rest ∧ IsDigits digits ∧
      e = Numeral.signed negative (Numeral.value digits) := by
  unfold signedDigits at h
  split at h
  · cases h
  · rename_i hne
    cases h
    refine ⟨_, List.takeWhile_append_dropWhile.symm, isDigits_takeWhile fun hnil => ?_, rfl⟩
    rw [hnil] at hne
    exact hne rfl

theorem signedDigits_of_isDigits (negative : Bool) {digits rest : List Char} (h : IsDigits digits)
    (hrest : StopsAt isAsciiDigit rest) :
    signedDigits negative (digits ++ rest) =
      some (Numeral.signed negative (Numeral.value digits), rest) := by
  have hne : ¬ digits.isEmpty = true := by simp [h.1]
  unfold signedDigits
  rw [takeWhile_digits h hrest, dropWhile_digits h hrest, if_neg hne]

theorem exponent?_cases (cs : List Char) :
    (∃ body, cs = '-' :: body ∧ Numeral.exponent? cs = signedDigits true body) ∨
    (∃ body, cs = '+' :: body ∧ Numeral.exponent? cs = signedDigits false body) ∨
    Numeral.exponent? cs = signedDigits false cs := by
  unfold Numeral.exponent?
  split
  rename_i negative body hsign
  split at hsign
  · cases hsign
    exact Or.inl ⟨_, rfl, rfl⟩
  · cases hsign
    exact Or.inr (Or.inl ⟨_, rfl, rfl⟩)
  · cases hsign
    exact Or.inr (Or.inr rfl)

theorem exists_of_exponentPart {cs rest : List Char} {e : Int}
    (h : exponentPart cs = some (e, rest)) :
    ∃ written, cs = written ++ rest ∧ SpellsExponent written e := by
  cases cs with
  | nil => cases h
  | cons c behind =>
    have hif : (if c = 'e' ∨ c = 'E' then Numeral.exponent? behind else none) = some (e, rest) := h
    split at hif
    · rename_i hc
      rcases exponent?_cases behind with ⟨body, rfl, heq⟩ | ⟨body, rfl, heq⟩ | heq
      · rw [heq] at hif
        obtain ⟨digits, rfl, hdigits, rfl⟩ := exists_of_signedDigits hif
        exact ⟨c :: '-' :: digits, rfl, .minus hc hdigits⟩
      · rw [heq] at hif
        obtain ⟨digits, rfl, hdigits, rfl⟩ := exists_of_signedDigits hif
        exact ⟨c :: '+' :: digits, rfl, .plus hc hdigits⟩
      · rw [heq] at hif
        obtain ⟨digits, rfl, hdigits, rfl⟩ := exists_of_signedDigits hif
        exact ⟨c :: digits, rfl, .bare hc hdigits⟩
    · cases hif

theorem exponent?_of_isDigits {digits rest : List Char} (h : IsDigits digits)
    (hrest : StopsAt isAsciiDigit rest) :
    Numeral.exponent? (digits ++ rest) = some ((Numeral.value digits : Int), rest) := by
  obtain ⟨c, more, rfl, hc⟩ := exists_cons_of_isDigits h
  rcases exponent?_cases (c :: more ++ rest) with ⟨body, heq, _⟩ | ⟨body, heq, _⟩ | heq
  · exact absurd (List.cons.inj heq).1 (ne_of_isAsciiDigit hc (by decide))
  · exact absurd (List.cons.inj heq).1 (ne_of_isAsciiDigit hc (by decide))
  · rw [heq]
    exact signedDigits_of_isDigits false h hrest

theorem exponentPart_of_spells {written rest : List Char} {e : Int} (h : SpellsExponent written e)
    (hrest : StopsAt isAsciiDigit rest) : exponentPart (written ++ rest) = some (e, rest) := by
  cases h with
  | @bare c digits hc hdigits =>
    have hif : exponentPart (c :: digits ++ rest) = Numeral.exponent? (digits ++ rest) := if_pos hc
    rw [hif, exponent?_of_isDigits hdigits hrest]
  | @plus c digits hc hdigits =>
    have hif : exponentPart (c :: '+' :: digits ++ rest) = signedDigits false (digits ++ rest) :=
      if_pos hc
    rw [hif, signedDigits_of_isDigits false hdigits hrest]
    rfl
  | @minus c digits hc hdigits =>
    have hif : exponentPart (c :: '-' :: digits ++ rest) = signedDigits true (digits ++ rest) :=
      if_pos hc
    rw [hif, signedDigits_of_isDigits true hdigits hrest]
    rfl

/-- An exponent begins with its letter, which is no digit and no point. -/
theorem stopsAt_of_spellsExponent {written : List Char} {e : Int} (h : SpellsExponent written e)
    (rest : List Char) :
    StopsAt isAsciiDigit (written ++ rest) ∧ (written ++ rest).head? ≠ some '.' := by
  have hletter : ∀ {c : Char} (more : List Char), c = 'e' ∨ c = 'E' →
      StopsAt isAsciiDigit (c :: more) ∧ (c :: more).head? ≠ some '.' := by
    rintro c more (rfl | rfl)
    · exact ⟨stopsAt_cons (by decide) _, by simp⟩
    · exact ⟨stopsAt_cons (by decide) _, by simp⟩
  cases h with
  | bare hc => exact hletter _ hc
  | plus hc => exact hletter _ hc
  | minus hc => exact hletter _ hc

theorem exponentPart_eq_none {cs : List Char} (h : StopsAt isNumeralPart cs) :
    exponentPart cs = none := by
  cases cs with
  | nil => rfl
  | cons c rest =>
    have hpart := h c rfl
    have hc : ¬ (c = 'e' ∨ c = 'E') := by
      rintro (rfl | rfl)
      · cases hpart
      · cases hpart
    exact if_neg hc

/-! ## 3. Numbers -/

/-- A number behind its sign; `left` characters are left where it begins. -/
def unsignedNumber (left : Nat) (negative : Bool) (body : List Char) : Outcome RawJson :=
  let (whole, rest) := integerPart body
  if whole.isEmpty then .error (.malformed .noValue left)
  else
    let (fraction, isFraction, rest) := match fractionPart rest with
      | some (digits, r) => (digits, true, r)
      | none => ([], false, rest)
    match exponentPart rest with
    | some (e, r) =>
      .ok (.double (Numeral.toDouble negative (Numeral.value (whole ++ fraction))
        (e - fraction.length)), r)
    | none =>
      if isFraction then
        .ok (.double (Numeral.toDouble negative (Numeral.value (whole ++ fraction))
          (-(fraction.length : Int))), rest)
      else if Numeral.maxDigits < whole.length then .error (.tooManyDigits whole.length)
      else .ok (.int (Numeral.signed negative (Numeral.value whole)), rest)

/-- A number is a sign and what stands behind it. -/
theorem number_cases (cs : List Char) : ∃ negative body, cs = minusSign negative ++ body ∧
    number cs = unsignedNumber cs.length negative body := by
  unfold number
  split
  rename_i negative body hsign
  split at hsign
  · cases hsign
    exact ⟨true, _, rfl, rfl⟩
  · cases hsign
    exact ⟨false, _, rfl, rfl⟩

/-- **What comes of a number**: none, one that is written, or an integer with too many digits. -/
inductive EndsNumber (left : Nat) (negative : Bool) (body : List Char) : Outcome RawJson → Prop
  | none : EndsNumber left negative body (.error (.malformed .noValue left))
  | number {written rest : List Char} {v : RawJson} (hbody : body = written ++ rest)
      (h : SpellsNumber (minusSign negative ++ written) v) :
      EndsNumber left negative body (.ok (v, rest))
  | tooManyDigits {whole rest : List Char} (hbody : body = whole ++ rest) (h : IsWhole whole)
      (hlength : Numeral.maxDigits < whole.length) :
      EndsNumber left negative body (.error (.tooManyDigits whole.length))

theorem endsNumber (left : Nat) (negative : Bool) (body : List Char) :
    EndsNumber left negative body (unsignedNumber left negative body) := by
  unfold unsignedNumber
  cases hinteger : integerPart body with
  | mk whole behind =>
    dsimp only
    split
    · exact .none
    · rename_i hempty
      have hne : whole ≠ [] := by
        rintro rfl
        exact hempty rfl
      obtain ⟨rfl, hwhole⟩ := isWhole_of_integerPart hinteger hne
      cases hfraction : fractionPart behind with
      | some found =>
        obtain ⟨fraction, rest⟩ := found
        obtain ⟨rfl, hdigits⟩ := exists_of_fractionPart hfraction
        -- behind a point there is a double, with an exponent or without
        dsimp only
        cases hexponent : exponentPart rest with
        | some found =>
          obtain ⟨e, r⟩ := found
          obtain ⟨written, rfl, he⟩ := exists_of_exponentPart hexponent
          exact .number (by simp) (.exponent hwhole (Or.inr hdigits) he)
        | none => exact .number (by simp) (.fraction hwhole hdigits)
      | none =>
        dsimp only
        cases hexponent : exponentPart behind with
        | some found =>
          obtain ⟨e, r⟩ := found
          obtain ⟨written, rfl, he⟩ := exists_of_exponentPart hexponent
          exact .number (by simp [pointed]) (.exponent hwhole (Or.inl rfl) he)
        | none =>
          -- only integers may have too many digits
          dsimp only
          rw [if_neg Bool.false_ne_true]
          split
          · rename_i hmany
            exact .tooManyDigits rfl hwhole hmany
          · rename_i hfew
            exact .number rfl (.int hwhole (Nat.le_of_not_lt hfew))

/-- **What is read as a number is written so.** -/
theorem exists_of_number {cs rest : List Char} {v : RawJson} (h : number cs = .ok (v, rest)) :
    ∃ body, cs = body ++ rest ∧ SpellsNumber body v := by
  obtain ⟨negative, body, hcs, heq⟩ := number_cases cs
  have hends := endsNumber cs.length negative body
  rw [← heq, h] at hends
  cases hends with
  | number hbody hspells =>
    refine ⟨_, ?_, hspells⟩
    rw [hcs, hbody, List.append_assoc]

/-- **Too many digits are digits of an integer**, somewhere in the text. -/
theorem exists_of_number_error {cs : List Char} {n : Nat}
    (h : number cs = .error (.tooManyDigits n)) :
    ∃ before whole rest, cs = before ++ (whole ++ rest) ∧ IsWhole whole ∧ whole.length = n ∧
      Numeral.maxDigits < n := by
  obtain ⟨negative, body, hcs, heq⟩ := number_cases cs
  have hends := endsNumber cs.length negative body
  rw [← heq, h] at hends
  cases hends with
  | tooManyDigits hbody hwhole hlength =>
    exact ⟨minusSign negative, _, _, hbody ▸ hcs, hwhole, rfl, hlength⟩

theorem number_minusSign (negative : Bool) {body : List Char} (h : body.head? ≠ some '-') :
    number (minusSign negative ++ body) =
      unsignedNumber (minusSign negative ++ body).length negative body := by
  cases negative with
  | true => rfl
  | false =>
    show number body = unsignedNumber body.length false body
    unfold number
    split
    rename_i negative body' hsign
    split at hsign
    · exact absurd rfl h
    · cases hsign
      rfl

section Written

variable {whole fraction rest : List Char} (hwhole : IsWhole whole)
include hwhole

theorem head?_whole (behind : List Char) {c : Char} (hc : isAsciiDigit c = false) :
    (whole ++ behind).head? ≠ some c := by
  obtain ⟨d, more, rfl, hd⟩ := exists_cons_of_isDigits hwhole.1
  intro h
  exact ne_of_isAsciiDigit hd hc (Option.some.inj h)

/-- A number with a fraction, or without one, up to its exponent. -/
theorem unsignedNumber_of_isWhole (left : Nat) (negative : Bool)
    (hfraction : fraction = [] ∨ IsDigits fraction) (hrest : StopsAt isAsciiDigit rest)
    (hpoint : rest.head? ≠ some '.') :
    unsignedNumber left negative (whole ++ (pointed fraction ++ rest)) =
      match exponentPart rest with
      | some (e, r) =>
        .ok (.double (Numeral.toDouble negative (Numeral.value (whole ++ fraction))
          (e - fraction.length)), r)
      | none =>
        if fraction = [] then
          if Numeral.maxDigits < whole.length then .error (.tooManyDigits whole.length)
          else .ok (.int (Numeral.signed negative (Numeral.value whole)), rest)
        else
          .ok (.double (Numeral.toDouble negative (Numeral.value (whole ++ fraction))
            (-(fraction.length : Int))), rest) := by
  have hempty : ¬ whole.isEmpty = true := by simp [hwhole.1.1]
  unfold unsignedNumber
  rcases hfraction with rfl | hdigits
  · have hpointed : pointed [] ++ rest = rest := rfl
    rw [hpointed, integerPart_of_isWhole hwhole hrest]
    dsimp only
    rw [if_neg hempty, fractionPart_eq_none hpoint]
    rfl
  · have hstop : StopsAt isAsciiDigit (pointed fraction ++ rest) := by
      rw [pointed_of_ne_nil hdigits.1]
      exact stopsAt_cons (by decide) _
    rw [integerPart_of_isWhole hwhole hstop]
    dsimp only
    rw [if_neg hempty, fractionPart_of_isDigits hdigits hrest]
    dsimp only
    rw [if_neg hdigits.1]
    rfl

end Written

/-- **A number is read as it is written**, if no numeral goes on behind it. -/
theorem number_of_spells {body rest : List Char} {v : RawJson} (h : SpellsNumber body v)
    (hrest : StopsAt isNumeralPart rest) : number (body ++ rest) = .ok (v, rest) := by
  have hpoint : rest.head? ≠ some '.' := fun hhead => by cases hrest '.' hhead
  have hminus : isAsciiDigit '-' = false := by decide
  cases h with
  | @int negative whole hwhole hlength =>
    have hparts := unsignedNumber_of_isWhole hwhole (minusSign negative ++ (whole ++ rest)).length
      negative (Or.inl rfl) hrest.digits hpoint
    rw [exponentPart_eq_none hrest] at hparts
    dsimp only at hparts
    rw [if_pos rfl, if_neg (by omega)] at hparts
    rw [List.append_assoc, number_minusSign negative (head?_whole hwhole rest hminus)]
    exact hparts
  | @fraction negative whole fraction hwhole hdigits =>
    have hparts := unsignedNumber_of_isWhole hwhole
      (minusSign negative ++ (whole ++ (pointed fraction ++ rest))).length
      negative (Or.inr hdigits) hrest.digits hpoint
    rw [exponentPart_eq_none hrest] at hparts
    dsimp only at hparts
    rw [if_neg hdigits.1] at hparts
    rw [List.append_assoc, List.append_assoc,
      number_minusSign negative (head?_whole hwhole _ hminus)]
    exact hparts
  | @exponent negative whole fraction written e hwhole hfraction he =>
    obtain ⟨hstop, hnoPoint⟩ := stopsAt_of_spellsExponent he rest
    have hparts := unsignedNumber_of_isWhole hwhole
      (minusSign negative ++ (whole ++ (pointed fraction ++ (written ++ rest)))).length
      negative hfraction hstop hnoPoint
    rw [exponentPart_of_spells he hrest.digits] at hparts
    rw [List.append_assoc, List.append_assoc, List.append_assoc,
      number_minusSign negative (head?_whole hwhole _ hminus)]
    exact hparts

/-! ## 4. Words -/

theorem words_cases {P : List Char × RawJson → Prop} (hnull : P ("null".toList, .null))
    (htrue : P ("true".toList, .bool true)) (hfalse : P ("false".toList, .bool false))
    (hnan : P ("NaN".toList, .double .nan))
    (hinfinity : P ("Infinity".toList, .double (.infinite false)))
    (hminus : P ("-Infinity".toList, .double (.infinite true))) : ∀ w ∈ words, P w := by
  intro w hw
  simp only [words, List.mem_cons, List.not_mem_nil, or_false] at hw
  rcases hw with rfl | rfl | rfl | rfl | rfl | rfl
  · exact hnull
  · exact htrue
  · exact hfalse
  · exact hnan
  · exact hinfinity
  · exact hminus

/-- **A word is read as it is written**, whatever follows it. -/
theorem atom_of_word {cs : List Char} {v : RawJson} (h : (cs, v) ∈ words) (rest : List Char) :
    atom (cs ++ rest) = .ok (v, rest) :=
  words_cases (P := fun w => atom (w.1 ++ rest) = .ok (w.2, rest)) rfl rfl rfl rfl rfl rfl _ h

/-- A word begins with two characters that are no digits. -/
theorem exists_cons_of_mem_words {w : List Char × RawJson} (h : w ∈ words) :
    ∃ a b more, w.1 = a :: b :: more ∧ isAsciiDigit a = false ∧ isAsciiDigit b = false := by
  refine words_cases (P := fun w => ∃ a b more, w.1 = a :: b :: more ∧ isAsciiDigit a = false ∧
    isAsciiDigit b = false) ?_ ?_ ?_ ?_ ?_ ?_ w h
  · exact ⟨_, _, _, rfl, by decide, by decide⟩
  · exact ⟨_, _, _, rfl, by decide, by decide⟩
  · exact ⟨_, _, _, rfl, by decide, by decide⟩
  · exact ⟨_, _, _, rfl, by decide, by decide⟩
  · exact ⟨_, _, _, rfl, by decide, by decide⟩
  · exact ⟨_, _, _, rfl, by decide, by decide⟩

/-- A number begins with a digit, or with a sign and a digit. -/
theorem exists_cons_of_spellsNumber {body : List Char} {v : RawJson} (h : SpellsNumber body v) :
    ∃ negative c more, body = minusSign negative ++ c :: more ∧ isAsciiDigit c = true := by
  have hwhole : ∀ {whole : List Char} (negative : Bool) (behind : List Char), IsWhole whole →
      ∃ negative' c more, minusSign negative ++ (whole ++ behind) =
        minusSign negative' ++ c :: more ∧ isAsciiDigit c = true := by
    intro whole negative behind h
    obtain ⟨c, more, rfl, hc⟩ := exists_cons_of_isDigits h.1
    exact ⟨negative, c, more ++ behind, rfl, hc⟩
  cases h with
  | @int negative whole h =>
    have hnil := hwhole negative [] h
    rw [List.append_nil] at hnil
    exact hnil
  | fraction h => exact hwhole _ _ h
  | exponent h => exact hwhole _ _ h

/-- What begins with a digit, or with a sign and a digit, is no word. -/
theorem atom_eq_number (negative : Bool) {c : Char} (hc : isAsciiDigit c = true)
    (behind : List Char) :
    atom (minusSign negative ++ c :: behind) = number (minusSign negative ++ c :: behind) := by
  have hfind : words.find? (·.1.isPrefixOf (minusSign negative ++ c :: behind)) = none := by
    refine List.find?_eq_none.mpr fun w hw hprefix => ?_
    obtain ⟨a, b, tail, hstart, ha, hb⟩ := exists_cons_of_mem_words hw
    obtain ⟨last, heq⟩ := List.isPrefixOf_iff_prefix.mp hprefix
    rw [hstart] at heq
    cases negative with
    | false => exact ne_of_isAsciiDigit hc ha (List.cons.inj heq).1.symm
    | true => exact ne_of_isAsciiDigit hc hb (List.cons.inj (List.cons.inj heq).2).1.symm
  unfold atom
  rw [hfind]

/-- **A number is read as a value.** -/
theorem atom_of_spells {body rest : List Char} {v : RawJson} (h : SpellsNumber body v)
    (hrest : StopsAt isNumeralPart rest) : atom (body ++ rest) = .ok (v, rest) := by
  have hnumber := number_of_spells h hrest
  obtain ⟨negative, c, more, rfl, hc⟩ := exists_cons_of_spellsNumber h
  rw [List.append_assoc, List.cons_append] at hnumber ⊢
  rw [atom_eq_number negative hc]
  exact hnumber

/-- **What is read as a value without parts is written so.** -/
theorem exists_of_atom {cs rest : List Char} {v : RawJson} (h : atom cs = .ok (v, rest)) :
    ∃ body, cs = body ++ rest ∧ ((body, v) ∈ words ∨ SpellsNumber body v) := by
  unfold atom at h
  split at h
  · rename_i word u hfind
    cases h
    have hprefix := List.find?_some hfind
    obtain ⟨more, rfl⟩ := List.isPrefixOf_iff_prefix.mp hprefix
    refine ⟨word, ?_, Or.inl (List.mem_of_find?_eq_some hfind)⟩
    rw [List.drop_left]
  · obtain ⟨body, hcs, hbody⟩ := exists_of_number h
    exact ⟨body, hcs, Or.inr hbody⟩

theorem exists_of_atom_error {cs : List Char} {n : Nat} (h : atom cs = .error (.tooManyDigits n)) :
    ∃ before whole rest, cs = before ++ (whole ++ rest) ∧ IsWhole whole ∧ whole.length = n ∧
      Numeral.maxDigits < n := by
  unfold atom at h
  split at h
  · cases h
  · exact exists_of_number_error h

end Reader

end SampleSchema
