import SampleSchema.Proofs.Json.Reading

/-!
# Texts with an integer of too many digits

A text that would denote a value, but for one integer with too many digits, is refused for that
integer and for no other reason (`RawJson.read_of_overruns`). What stands behind the integer does not
matter, as the reader never gets there; what stands in front of it is read first.

The proof goes along the ways to the integer (`Overruns`), as the one that what is denoted is read
goes along the rules of the grammar.
-/

namespace SampleSchema

/-- The kinds of parts of a text. -/
inductive PartKind where
  | value
  | items
  | member
  | members

/-- The kind of a part. -/
def PartOf.kind {τ : Type} : PartOf τ → PartKind
  | .value _ => .value
  | .items _ => .items
  | .member _ _ => .member
  | .members _ => .members

/-- **A text meets an integer of `n` digits**, which are too many, and all before it is in order. -/
inductive Overruns (n : Nat) : PartKind → List Char → Prop
  | integer (negative : Bool) {whole : List Char} (h : IsWhole whole) (hlength : whole.length = n)
      (hmany : Numeral.maxDigits < n) : Overruns n .value (minusSign negative ++ whole)
  | array {gap cs : List Char} (hgap : IsGap gap) (h : Overruns n .items cs) :
      Overruns n .value ('[' :: (gap ++ (cs ++ [']'])))
  | object {gap cs : List Char} (hgap : IsGap gap) (h : Overruns n .members cs) :
      Overruns n .value ('{' :: (gap ++ (cs ++ ['}'])))
  | firstItem {cs behind : List Char} (h : Overruns n .value cs)
      (hbehind : StopsAt isNumeralPart behind) : Overruns n .items (cs ++ behind)
  | laterItem {cs gap gap' more : List Char} {v : RawJson} (h : Denotes cs (.value v)) (hgap : IsGap gap)
      (hgap' : IsGap gap') (hmore : Overruns n .items more) :
      Overruns n .items (cs ++ (gap ++ ',' :: (gap' ++ more)))
  | member {key gap gap' cs : List Char} {s : RawText} (hkey : SpellsString key s)
      (hgap : IsGap gap) (hgap' : IsGap gap') (h : Overruns n .value cs) :
      Overruns n .member ('"' :: (key ++ '"' :: (gap ++ ':' :: (gap' ++ cs))))
  | firstMember {cs behind : List Char} (h : Overruns n .member cs)
      (hbehind : StopsAt isNumeralPart behind) : Overruns n .members (cs ++ behind)
  | laterMember {cs gap gap' more : List Char} {s : RawText} {v : RawJson}
      (h : Denotes cs (.member s v)) (hgap : IsGap gap) (hgap' : IsGap gap')
      (hmore : Overruns n .members more) :
      Overruns n .members (cs ++ (gap ++ ',' :: (gap' ++ more)))

namespace Reader

variable {n : Nat}

/-! ## 1. Where such a text begins -/

theorem exists_cons_of_overruns {kind : PartKind} {cs : List Char} (h : Overruns n kind cs) :
    ∃ c more, cs = c :: more ∧ endsPart c = false := by
  have happend : ∀ {cs : List Char} (rest : List Char),
      (∃ c more, cs = c :: more ∧ endsPart c = false) →
      ∃ c more, cs ++ rest = c :: more ∧ endsPart c = false := by
    rintro cs rest ⟨c, more, rfl, hc⟩
    exact ⟨c, more ++ rest, rfl, hc⟩
  induction h with
  | integer negative hwhole =>
    obtain ⟨c, more, rfl, hc⟩ := exists_cons_of_isDigits hwhole.1
    cases negative with
    | true => exact ⟨'-', c :: more, rfl, by decide⟩
    | false => exact ⟨c, more, rfl, endsPart_of_isAsciiDigit hc⟩
  | array => exact ⟨'[', _, rfl, by decide⟩
  | object => exact ⟨'{', _, rfl, by decide⟩
  | firstItem h hbehind ih => exact happend _ ih
  | laterItem h => exact happend _ (exists_cons_of_denotes h)
  | member => exact ⟨'"', _, rfl, by decide⟩
  | firstMember h hbehind ih => exact happend _ ih
  | laterMember h => exact happend _ (exists_cons_of_denotes h)

theorem stopsAt_of_overruns {kind : PartKind} {cs : List Char} (h : Overruns n kind cs)
    (rest : List Char) : StopsAt isJsonBlank (cs ++ rest) := by
  obtain ⟨c, more, rfl, hc⟩ := exists_cons_of_overruns h
  unfold endsPart at hc
  simp only [Bool.or_eq_false_iff] at hc
  exact stopsAt_cons hc.1.1.1 _

/-- Where a text stops, more of it stops as well. -/
theorem stopsAt_append_cons {behind : List Char} (h : StopsAt isNumeralPart behind) {c : Char}
    (hc : isNumeralPart c = false) (rest : List Char) :
    StopsAt isNumeralPart (behind ++ c :: rest) := by
  cases behind with
  | nil => exact stopsAt_cons hc rest
  | cons d behind => exact stopsAt_cons (h d rfl) _

/-! ## 2. Where the reader stops -/

/-- **A part of a text is refused for an integer of `n` digits**, whatever follows it. -/
def IsRefused (n : Nat) : PartKind → List Char → Prop
  | .value, cs => ∀ fuel rest, 2 * cs.length ≤ fuel + 1 → StopsAt isNumeralPart rest →
      value fuel (cs ++ rest) = .error (.tooManyDigits n)
  | .items, cs => ∀ fuel read rest, 2 * cs.length ≤ fuel →
      elements fuel read (cs ++ ']' :: rest) = .error (.tooManyDigits n)
  | .member, cs => ∀ fuel rest, 2 * cs.length ≤ fuel + 1 → StopsAt isNumeralPart rest →
      ∃ behind key afterKey afterColon, cs ++ rest = '"' :: behind ∧
        string behind = .ok (key, afterKey) ∧ skipBlanks afterKey = ':' :: afterColon ∧
        value fuel (skipBlanks afterColon) = .error (.tooManyDigits n)
  | .members, cs => ∀ fuel read rest, 2 * cs.length ≤ fuel →
      objectRest fuel read (cs ++ '}' :: rest) = .error (.tooManyDigits n)

theorem isRefused_integer (negative : Bool) {whole : List Char} (hwhole : IsWhole whole)
    (hlength : whole.length = n) (hmany : Numeral.maxDigits < n) :
    IsRefused n .value (minusSign negative ++ whole) := by
  intro fuel rest hfuel hrest
  have hpoint : rest.head? ≠ some '.' := fun hhead => by cases hrest '.' hhead
  have hparts := unsignedNumber_of_isWhole hwhole (minusSign negative ++ (whole ++ rest)).length
    negative (Or.inl rfl) hrest.digits hpoint
  rw [exponentPart_eq_none hrest] at hparts
  dsimp only at hparts
  rw [if_pos rfl, if_pos (hlength ▸ hmany), hlength] at hparts
  have hnumber := number_minusSign negative (head?_whole hwhole rest (by decide))
  rw [List.append_assoc]
  obtain ⟨c, more, rfl, hc⟩ := exists_cons_of_isDigits hwhole.1
  have hatom : atom (minusSign negative ++ (c :: more ++ rest)) = .error (.tooManyDigits n) := by
    rw [List.cons_append, atom_eq_number negative hc, ← List.cons_append, hnumber]
    exact hparts
  cases fuel with
  | zero =>
    simp only [List.length_append, List.length_cons] at hfuel
    omega
  | succ fuel =>
    -- a sign or a digit opens neither a string nor an array nor an object
    cases negative with
    | true => exact hatom
    | false =>
      show value (fuel + 1) (c :: (more ++ rest)) = _
      rw [value, if_neg (ne_of_isAsciiDigit hc (by decide)),
        if_neg (ne_of_isAsciiDigit hc (by decide)), if_neg (ne_of_isAsciiDigit hc (by decide))]
      exact hatom

theorem isRefused_array {gap cs : List Char} (hgap : IsGap gap) (h : Overruns n .items cs)
    (ih : IsRefused n .items cs) : IsRefused n .value ('[' :: (gap ++ (cs ++ [']']))) := by
  intro fuel rest hfuel _
  simp only [List.length_cons, List.length_append] at hfuel
  cases fuel with
  | zero => omega
  | succ fuel =>
    have hskip : skipBlanks (gap ++ (cs ++ [']']) ++ rest) = cs ++ ']' :: rest := by
      rw [List.append_assoc, List.append_assoc]
      exact skipBlanks_append hgap (stopsAt_of_overruns h _)
    have hitems := ih fuel [] rest (by omega)
    rw [List.cons_append, value, if_neg (by decide), if_pos rfl, hskip]
    obtain ⟨c, more, rfl, hc⟩ := exists_cons_of_overruns h
    split
    · rename_i r heq
      rw [(List.cons.inj heq).1] at hc
      exact absurd hc (by decide)
    · exact hitems

theorem isRefused_object {gap cs : List Char} (hgap : IsGap gap) (h : Overruns n .members cs)
    (ih : IsRefused n .members cs) : IsRefused n .value ('{' :: (gap ++ (cs ++ ['}']))) := by
  intro fuel rest hfuel _
  simp only [List.length_cons, List.length_append] at hfuel
  cases fuel with
  | zero => omega
  | succ fuel =>
    have hskip : skipBlanks (gap ++ (cs ++ ['}']) ++ rest) = cs ++ '}' :: rest := by
      rw [List.append_assoc, List.append_assoc]
      exact skipBlanks_append hgap (stopsAt_of_overruns h _)
    have hmembers := ih fuel [] rest (by omega)
    rw [List.cons_append, value, if_neg (by decide), if_neg (by decide), if_pos rfl, hskip]
    obtain ⟨c, more, rfl, hc⟩ := exists_cons_of_overruns h
    split
    · rename_i r heq
      rw [(List.cons.inj heq).1] at hc
      exact absurd hc (by decide)
    · exact hmembers

theorem isRefused_firstItem {cs behind : List Char} (h : Overruns n .value cs)
    (ih : IsRefused n .value cs) (hbehind : StopsAt isNumeralPart behind) :
    IsRefused n .items (cs ++ behind) := by
  intro fuel read rest hfuel
  rw [List.length_append] at hfuel
  cases fuel with
  | zero =>
    obtain ⟨c, more, rfl, _⟩ := exists_cons_of_overruns h
    simp only [List.length_cons] at hfuel
    omega
  | succ fuel =>
    have hvalue := ih fuel (behind ++ ']' :: rest) (by omega)
      (stopsAt_append_cons hbehind (by decide) rest)
    rw [List.append_assoc, elements, hvalue]

theorem isRefused_laterItem {cs gap gap' more : List Char} {v : RawJson} (h : Denotes cs (.value v))
    (hgap : IsGap gap) (hgap' : IsGap gap') (hmore : Overruns n .items more)
    (ih : IsRefused n .items more) :
    IsRefused n .items (cs ++ (gap ++ ',' :: (gap' ++ more))) := by
  intro fuel read rest hfuel
  simp only [List.length_cons, List.length_append] at hfuel
  cases fuel with
  | zero => omega
  | succ fuel =>
    have hvalue := isRead_of_denotes h fuel (gap ++ ',' :: (gap' ++ (more ++ ']' :: rest))) (by omega)
      (stopsAt_gap hgap (by decide) _)
    have hskip : skipBlanks (gap ++ ',' :: (gap' ++ (more ++ ']' :: rest))) =
        ',' :: (gap' ++ (more ++ ']' :: rest)) :=
      skipBlanks_append hgap (stopsAt_cons (by decide) _)
    have hskip' : skipBlanks (gap' ++ (more ++ ']' :: rest)) = more ++ ']' :: rest :=
      skipBlanks_append hgap' (stopsAt_of_overruns hmore _)
    have htext : cs ++ (gap ++ ',' :: (gap' ++ more)) ++ ']' :: rest =
        cs ++ (gap ++ ',' :: (gap' ++ (more ++ ']' :: rest))) := by simp
    rw [htext, elements, hvalue]
    dsimp only
    rw [hskip]
    show elements fuel (v :: read) (skipBlanks (gap' ++ (more ++ ']' :: rest))) = _
    rw [hskip', ih fuel (v :: read) rest (by omega)]

/-- A member whose value is refused ends the object. -/
theorem objectRest_of_refused {fuel : Nat} (read : List (RawText × RawJson)) {key : RawText} {halt : Halt}
    {behind afterKey afterColon : List Char} (hkey : string behind = .ok (key, afterKey))
    (hcolon : skipBlanks afterKey = ':' :: afterColon)
    (hvalue : value fuel (skipBlanks afterColon) = .error halt) :
    objectRest (fuel + 1) read ('"' :: behind) = .error halt := by
  rw [objectRest]
  simp only [hkey, hcolon, hvalue]

theorem isRefused_member {key gap gap' cs : List Char} {s : RawText} (hkey : SpellsString key s)
    (hgap : IsGap gap) (hgap' : IsGap gap') (h : Overruns n .value cs)
    (ih : IsRefused n .value cs) :
    IsRefused n .member ('"' :: (key ++ '"' :: (gap ++ ':' :: (gap' ++ cs)))) := by
  intro fuel rest hfuel hrest
  simp only [List.length_cons, List.length_append] at hfuel
  have hskip : skipBlanks (gap ++ ':' :: (gap' ++ (cs ++ rest))) = ':' :: (gap' ++ (cs ++ rest)) :=
    skipBlanks_append hgap (stopsAt_cons (by decide) _)
  have hskip' : skipBlanks (gap' ++ (cs ++ rest)) = cs ++ rest :=
    skipBlanks_append hgap' (stopsAt_of_overruns h _)
  refine ⟨_, s, gap ++ ':' :: (gap' ++ (cs ++ rest)), _, by simp, string_of_spells hkey _, hskip, ?_⟩
  rw [hskip']
  exact ih fuel rest (by omega) hrest

theorem isRefused_firstMember {cs behind : List Char} (h : Overruns n .member cs)
    (ih : IsRefused n .member cs) (hbehind : StopsAt isNumeralPart behind) :
    IsRefused n .members (cs ++ behind) := by
  intro fuel read rest hfuel
  rw [List.length_append] at hfuel
  cases fuel with
  | zero =>
    obtain ⟨c, more, rfl, _⟩ := exists_cons_of_overruns h
    simp only [List.length_cons] at hfuel
    omega
  | succ fuel =>
    obtain ⟨opened, key, afterKey, afterColon, hopened, hkey, hcolon, hvalue⟩ :=
      ih fuel (behind ++ '}' :: rest) (by omega) (stopsAt_append_cons hbehind (by decide) rest)
    rw [List.append_assoc, hopened]
    exact objectRest_of_refused read hkey hcolon hvalue

theorem isRefused_laterMember {cs gap gap' more : List Char} {s : RawText} {v : RawJson}
    (h : Denotes cs (.member s v)) (hgap : IsGap gap) (hgap' : IsGap gap')
    (hmore : Overruns n .members more) (ih : IsRefused n .members more) :
    IsRefused n .members (cs ++ (gap ++ ',' :: (gap' ++ more))) := by
  intro fuel read rest hfuel
  simp only [List.length_cons, List.length_append] at hfuel
  cases fuel with
  | zero => omega
  | succ fuel =>
    obtain ⟨behind, afterKey, afterColon, hbehind, hkey, hcolon, hvalue⟩ :=
      isRead_of_denotes h fuel (gap ++ ',' :: (gap' ++ (more ++ '}' :: rest))) (by omega)
        (stopsAt_gap hgap (by decide) _)
    have hskip : skipBlanks (gap ++ ',' :: (gap' ++ (more ++ '}' :: rest))) =
        ',' :: (gap' ++ (more ++ '}' :: rest)) :=
      skipBlanks_append hgap (stopsAt_cons (by decide) _)
    have hskip' : skipBlanks (gap' ++ (more ++ '}' :: rest)) = more ++ '}' :: rest :=
      skipBlanks_append hgap' (stopsAt_of_overruns hmore _)
    have htext : cs ++ (gap ++ ',' :: (gap' ++ more)) ++ '}' :: rest = '"' :: behind := by
      rw [← hbehind]
      simp
    rw [htext, objectRest_of_member read hkey hcolon hvalue hskip, hskip',
      ih fuel (Entries.put read s v) rest (by omega)]

/-- **The reader gets as far as the integer**, part by part. -/
theorem isRefused_of_overruns {kind : PartKind} {cs : List Char} (h : Overruns n kind cs) :
    IsRefused n kind cs := by
  induction h with
  | integer negative hwhole hlength hmany => exact isRefused_integer negative hwhole hlength hmany
  | array hgap h ih => exact isRefused_array hgap h ih
  | object hgap h ih => exact isRefused_object hgap h ih
  | firstItem h hbehind ih => exact isRefused_firstItem h ih hbehind
  | laterItem h hgap hgap' hmore ih => exact isRefused_laterItem h hgap hgap' hmore ih
  | member hkey hgap hgap' h ih => exact isRefused_member hkey hgap hgap' h ih
  | firstMember h hbehind ih => exact isRefused_firstMember h ih hbehind
  | laterMember h hgap hgap' hmore ih => exact isRefused_laterMember h hgap hgap' hmore ih

end Reader

/-! ## 3. Texts -/

/-- **A text with an integer of too many digits is refused for just that integer.** -/
theorem RawJson.read_of_overruns {n : Nat} {cs : List Char} (h : Overruns n .value cs) :
    RawJson.read cs = .error (.tooManyDigits n) := by
  have hstart : Reader.skipBlanks cs = cs := by
    have hskip := Reader.skipBlanks_append isGap_nil (Reader.stopsAt_of_overruns h [])
    rw [List.nil_append, List.append_nil] at hskip
    exact hskip
  have hvalue := Reader.isRefused_of_overruns h (2 * cs.length + 1) [] (by omega) (stopsAt_nil _)
  rw [List.append_nil] at hvalue
  have hwhole : Reader.document.whole cs = .error (.tooManyDigits n) := by
    unfold Reader.document.whole
    rw [hstart, hvalue]
  unfold RawJson.read
  rcases Reader.document_cases cs with ⟨hmark, _⟩ | heq
  · obtain ⟨c, more, rfl, hc⟩ := Reader.exists_cons_of_overruns h
    rw [Option.some.inj hmark] at hc
    exact absurd hc (by decide)
  · rw [heq, hwhole]
    rfl

theorem Json.read_of_overruns {n : Nat} {cs : List Char} (h : Overruns n .value cs) :
    Json.read cs = .error (.tooManyDigits n) := by
  unfold Json.read
  rw [RawJson.read_of_overruns h]

end SampleSchema
