import SampleSchema.Proofs.Json.Characters
import SampleSchema.Proofs.Json.Parts

/-!
# Reading JSON texts

The reader gives the value that a text denotes, for every text that denotes one, and for no other
(`RawJson.read_eq_ok_iff`). So a text denotes one value at most (`IsTextOf.unique`). Where that is a
value of texts of characters, it is read as one (`Json.read_eq_ok_iff`).

That what is read is denoted is known of each part. That what is denoted is read is by induction on
what a text denotes, with twice its length as fuel (`isRead_of_denotes`).
-/

namespace SampleSchema

namespace Reader

/-! ## 1. What is denoted is read -/

/-- What no part of a text begins with: a blank, a closing bracket, or a byte order mark. -/
def endsPart (c : Char) : Bool :=
  isJsonBlank c || c == ']' || c == '}' || c == Char.ofNat 0xFEFF

theorem endsPart_of_isAsciiDigit {c : Char} (h : isAsciiDigit c = true) : endsPart c = false := by
  unfold endsPart isJsonBlank
  simp only [Bool.or_eq_false_iff, beq_eq_false_iff_ne]
  refine ⟨⟨⟨⟨⟨⟨?_, ?_⟩, ?_⟩, ?_⟩, ?_⟩, ?_⟩, ?_⟩
  all_goals exact ne_of_isAsciiDigit h (by decide)

/-- **A part of a text begins with a character of its own.** -/
theorem exists_cons_of_denotes {cs : List Char} {part : Part} (h : Denotes cs part) :
    ∃ c more, cs = c :: more ∧ endsPart c = false := by
  have happend : ∀ {cs : List Char} (rest : List Char),
      (∃ c more, cs = c :: more ∧ endsPart c = false) →
      ∃ c more, cs ++ rest = c :: more ∧ endsPart c = false := by
    rintro cs rest ⟨c, more, rfl, hc⟩
    exact ⟨c, more ++ rest, rfl, hc⟩
  induction h with
  | word h =>
    exact words_cases (P := fun w => ∃ c more, w.1 = c :: more ∧ endsPart c = false)
      ⟨_, _, rfl, by decide⟩ ⟨_, _, rfl, by decide⟩ ⟨_, _, rfl, by decide⟩ ⟨_, _, rfl, by decide⟩
      ⟨_, _, rfl, by decide⟩ ⟨_, _, rfl, by decide⟩ _ h
  | number h =>
    obtain ⟨negative, c, more, rfl, hc⟩ := exists_cons_of_spellsNumber h
    cases negative with
    | true => exact ⟨'-', c :: more, rfl, by decide⟩
    | false => exact ⟨c, more, rfl, endsPart_of_isAsciiDigit hc⟩
  | string => exact ⟨'"', _, rfl, by decide⟩
  | emptyArray => exact ⟨'[', _, rfl, by decide⟩
  | array => exact ⟨'[', _, rfl, by decide⟩
  | emptyObject => exact ⟨'{', _, rfl, by decide⟩
  | object => exact ⟨'{', _, rfl, by decide⟩
  | lastItem h hgap ih => exact happend _ ih
  | item h hgap hgap' hrest ih => exact happend _ ih
  | member => exact ⟨'"', _, rfl, by decide⟩
  | lastMember h hgap ih => exact happend _ ih
  | more h hgap hgap' hrest ih => exact happend _ ih

theorem stopsAt_of_denotes {cs : List Char} {part : Part} (h : Denotes cs part)
    (rest : List Char) : StopsAt isJsonBlank (cs ++ rest) := by
  obtain ⟨c, more, rfl, hc⟩ := exists_cons_of_denotes h
  unfold endsPart at hc
  simp only [Bool.or_eq_false_iff] at hc
  exact stopsAt_cons hc.1.1.1 _

/-- **A part of a text is read as it is denoted**, with twice its length as fuel, if no numeral goes
    on behind it. -/
def IsRead (cs : List Char) : Part → Prop
  | .value v => ∀ fuel rest, 2 * cs.length ≤ fuel + 1 → StopsAt isNumeralPart rest →
      value fuel (cs ++ rest) = .ok (v, rest)
  | .items vs => ∀ fuel read rest, 2 * cs.length ≤ fuel →
      elements fuel read (cs ++ ']' :: rest) = .ok (.arr (read.reverse ++ vs), rest)
  | .member key v => ∀ fuel rest, 2 * cs.length ≤ fuel + 1 → StopsAt isNumeralPart rest →
      ∃ behind afterKey afterColon, cs ++ rest = '"' :: behind ∧
        string behind = .ok (key, afterKey) ∧ skipBlanks afterKey = ':' :: afterColon ∧
        value fuel (skipBlanks afterColon) = .ok (v, rest)
  | .members ms => ∀ fuel read rest, 2 * cs.length ≤ fuel →
      objectRest fuel read (cs ++ '}' :: rest) = .ok (.obj (putAll read ms), rest)

/-! ### Values without parts -/

/-- What does not begin like a value with parts is read as one without. -/
theorem isRead_of_atom {cs : List Char} {v : RawJson}
    (hstart : ∃ c more, cs = c :: more ∧ c ≠ '"' ∧ c ≠ '[' ∧ c ≠ '{')
    (h : ∀ rest, StopsAt isNumeralPart rest → atom (cs ++ rest) = .ok (v, rest)) :
    IsRead cs (.value v) := by
  intro fuel rest hfuel hrest
  obtain ⟨c, more, rfl, hquote, hopen, hbrace⟩ := hstart
  rw [List.length_cons] at hfuel
  cases fuel with
  | zero => omega
  | succ fuel =>
    rw [List.cons_append, value, if_neg hquote, if_neg hopen, if_neg hbrace]
    exact h rest hrest

theorem isRead_of_word {cs : List Char} {v : RawJson} (h : (cs, v) ∈ words) : IsRead cs (.value v) := by
  refine isRead_of_atom ?_ fun rest _ => atom_of_word h rest
  exact words_cases
    (P := fun w => ∃ c more, w.1 = c :: more ∧ c ≠ '"' ∧ c ≠ '[' ∧ c ≠ '{')
    ⟨_, _, rfl, by decide⟩ ⟨_, _, rfl, by decide⟩ ⟨_, _, rfl, by decide⟩ ⟨_, _, rfl, by decide⟩
    ⟨_, _, rfl, by decide⟩ ⟨_, _, rfl, by decide⟩ _ h

theorem isRead_of_number {cs : List Char} {v : RawJson} (h : SpellsNumber cs v) :
    IsRead cs (.value v) := by
  refine isRead_of_atom ?_ fun rest hrest => atom_of_spells h hrest
  obtain ⟨negative, c, more, rfl, hc⟩ := exists_cons_of_spellsNumber h
  cases negative with
  | true => exact ⟨'-', c :: more, rfl, by decide⟩
  | false =>
    exact ⟨c, more, rfl, ne_of_isAsciiDigit hc (by decide), ne_of_isAsciiDigit hc (by decide),
      ne_of_isAsciiDigit hc (by decide)⟩

theorem isRead_of_string {cs : List Char} {s : RawText} (h : SpellsString cs s) :
    IsRead ('"' :: (cs ++ ['"'])) (.value (.str s)) := by
  intro fuel rest hfuel _
  cases fuel with
  | zero =>
    simp only [List.length_cons] at hfuel
    omega
  | succ fuel =>
    have hstring : string (cs ++ ['"'] ++ rest) = .ok (s, rest) := by
      rw [List.append_assoc]
      exact string_of_spells h rest
    rw [List.cons_append, value, if_pos rfl, hstring]

/-! ### Arrays -/

theorem isRead_of_emptyArray {gap : List Char} (hgap : IsGap gap) :
    IsRead ('[' :: (gap ++ [']'])) (.value (.arr [])) := by
  intro fuel rest hfuel _
  rw [List.length_cons] at hfuel
  cases fuel with
  | zero => omega
  | succ fuel =>
    have hskip : skipBlanks (gap ++ [']'] ++ rest) = ']' :: rest := by
      rw [List.append_assoc]
      exact skipBlanks_append hgap (stopsAt_cons (by decide) rest)
    rw [List.cons_append, value, if_neg (by decide), if_pos rfl, hskip]
    rfl

theorem isRead_of_array {gap cs : List Char} {items : List RawJson} (hgap : IsGap gap)
    (h : Denotes cs (.items items)) (ih : IsRead cs (.items items)) :
    IsRead ('[' :: (gap ++ (cs ++ [']']))) (.value (.arr items)) := by
  intro fuel rest hfuel _
  simp only [List.length_cons, List.length_append] at hfuel
  cases fuel with
  | zero => omega
  | succ fuel =>
    have hskip : skipBlanks (gap ++ (cs ++ [']']) ++ rest) = cs ++ ']' :: rest := by
      rw [List.append_assoc, List.append_assoc]
      exact skipBlanks_append hgap (stopsAt_of_denotes h _)
    have hitems := ih fuel [] rest (by omega)
    rw [List.cons_append, value, if_neg (by decide), if_pos rfl, hskip]
    -- the closing bracket that would come first is nothing that a part begins with
    obtain ⟨c, more, rfl, hc⟩ := exists_cons_of_denotes h
    split
    · rename_i r heq
      rw [(List.cons.inj heq).1] at hc
      exact absurd hc (by decide)
    · exact hitems

theorem isRead_of_lastItem {cs gap : List Char} {v : RawJson} (ih : IsRead cs (.value v))
    (hgap : IsGap gap) : IsRead (cs ++ gap) (.items [v]) := by
  intro fuel read rest hfuel
  rw [List.length_append] at hfuel
  cases fuel with
  | zero =>
    -- no fuel is enough only for an empty text, and no value is read off one
    have hnone := ih 0 [] (by omega) (stopsAt_nil _)
    cases hnone
  | succ fuel =>
    have hvalue := ih fuel (gap ++ ']' :: rest) (by omega) (stopsAt_gap hgap (by decide) rest)
    have hskip : skipBlanks (gap ++ ']' :: rest) = ']' :: rest :=
      skipBlanks_append hgap (stopsAt_cons (by decide) rest)
    rw [List.append_assoc, elements, hvalue]
    dsimp only
    rw [hskip, List.reverse_cons]
    rfl

theorem isRead_of_item {cs gap gap' more : List Char} {v : RawJson} {vs : List RawJson}
    (ih : IsRead cs (.value v)) (hgap : IsGap gap) (hgap' : IsGap gap')
    (hmore : Denotes more (.items vs)) (ihmore : IsRead more (.items vs)) :
    IsRead (cs ++ (gap ++ ',' :: (gap' ++ more))) (.items (v :: vs)) := by
  intro fuel read rest hfuel
  simp only [List.length_cons, List.length_append] at hfuel
  cases fuel with
  | zero => omega
  | succ fuel =>
    have hvalue := ih fuel (gap ++ ',' :: (gap' ++ (more ++ ']' :: rest))) (by omega)
      (stopsAt_gap hgap (by decide) _)
    have hskip : skipBlanks (gap ++ ',' :: (gap' ++ (more ++ ']' :: rest))) =
        ',' :: (gap' ++ (more ++ ']' :: rest)) :=
      skipBlanks_append hgap (stopsAt_cons (by decide) _)
    have hskip' : skipBlanks (gap' ++ (more ++ ']' :: rest)) = more ++ ']' :: rest :=
      skipBlanks_append hgap' (stopsAt_of_denotes hmore _)
    have htext : cs ++ (gap ++ ',' :: (gap' ++ more)) ++ ']' :: rest =
        cs ++ (gap ++ ',' :: (gap' ++ (more ++ ']' :: rest))) := by simp
    rw [htext, elements, hvalue]
    dsimp only
    rw [hskip]
    show elements fuel (v :: read) (skipBlanks (gap' ++ (more ++ ']' :: rest))) = _
    rw [hskip', ihmore fuel (v :: read) rest (by omega), List.reverse_cons, List.append_assoc]
    rfl

/-! ### Objects -/

theorem isRead_of_emptyObject {gap : List Char} (hgap : IsGap gap) :
    IsRead ('{' :: (gap ++ ['}'])) (.value (.obj [])) := by
  intro fuel rest hfuel _
  rw [List.length_cons] at hfuel
  cases fuel with
  | zero => omega
  | succ fuel =>
    have hskip : skipBlanks (gap ++ ['}'] ++ rest) = '}' :: rest := by
      rw [List.append_assoc]
      exact skipBlanks_append hgap (stopsAt_cons (by decide) rest)
    rw [List.cons_append, value, if_neg (by decide), if_neg (by decide), if_pos rfl, hskip]
    rfl

theorem isRead_of_object {gap cs : List Char} {ms : List (RawText × RawJson)} (hgap : IsGap gap)
    (h : Denotes cs (.members ms)) (ih : IsRead cs (.members ms)) :
    IsRead ('{' :: (gap ++ (cs ++ ['}']))) (.value (.obj (Entries.ofPairs ms))) := by
  intro fuel rest hfuel _
  simp only [List.length_cons, List.length_append] at hfuel
  cases fuel with
  | zero => omega
  | succ fuel =>
    have hskip : skipBlanks (gap ++ (cs ++ ['}']) ++ rest) = cs ++ '}' :: rest := by
      rw [List.append_assoc, List.append_assoc]
      exact skipBlanks_append hgap (stopsAt_of_denotes h _)
    have hms := ih fuel [] rest (by omega)
    rw [List.cons_append, value, if_neg (by decide), if_neg (by decide), if_pos rfl, hskip]
    -- the closing bracket that would come first is nothing that a part begins with
    obtain ⟨c, more, rfl, hc⟩ := exists_cons_of_denotes h
    split
    · rename_i r heq
      rw [(List.cons.inj heq).1] at hc
      exact absurd hc (by decide)
    · exact hms

theorem isRead_of_member {key gap gap' cs : List Char} {s : RawText} {v : RawJson}
    (hkey : SpellsString key s) (hgap : IsGap gap) (hgap' : IsGap gap')
    (h : Denotes cs (.value v)) (ih : IsRead cs (.value v)) :
    IsRead ('"' :: (key ++ '"' :: (gap ++ ':' :: (gap' ++ cs)))) (.member s v) := by
  intro fuel rest hfuel hrest
  simp only [List.length_cons, List.length_append] at hfuel
  have hskip : skipBlanks (gap ++ ':' :: (gap' ++ (cs ++ rest))) = ':' :: (gap' ++ (cs ++ rest)) :=
    skipBlanks_append hgap (stopsAt_cons (by decide) _)
  have hskip' : skipBlanks (gap' ++ (cs ++ rest)) = cs ++ rest :=
    skipBlanks_append hgap' (stopsAt_of_denotes h _)
  refine ⟨_, gap ++ ':' :: (gap' ++ (cs ++ rest)), _, by simp, string_of_spells hkey _, hskip, ?_⟩
  rw [hskip']
  exact ih fuel rest (by omega) hrest

section Member

variable {fuel : Nat} (read : List (RawText × RawJson)) {key : RawText} {v : RawJson}
  {behind afterKey afterColon after rest : List Char}

/-- The last member is put among those read so far. -/
theorem objectRest_of_lastMember (hkey : string behind = .ok (key, afterKey))
    (hcolon : skipBlanks afterKey = ':' :: afterColon)
    (hvalue : value fuel (skipBlanks afterColon) = .ok (v, after))
    (hend : skipBlanks after = '}' :: rest) :
    objectRest (fuel + 1) read ('"' :: behind) = .ok (.obj (Entries.put read key v), rest) := by
  rw [objectRest]
  simp only [hkey, hcolon, hvalue, hend]

/-- Any other member is put among those read so far, and the next one is read. -/
theorem objectRest_of_member (hkey : string behind = .ok (key, afterKey))
    (hcolon : skipBlanks afterKey = ':' :: afterColon)
    (hvalue : value fuel (skipBlanks afterColon) = .ok (v, after))
    (hcomma : skipBlanks after = ',' :: rest) :
    objectRest (fuel + 1) read ('"' :: behind) =
      objectRest fuel (Entries.put read key v) (skipBlanks rest) := by
  rw [objectRest]
  simp only [hkey, hcolon, hvalue, hcomma]

end Member

theorem isRead_of_lastMember {cs gap : List Char} {s : RawText} {v : RawJson}
    (ih : IsRead cs (.member s v)) (hgap : IsGap gap) : IsRead (cs ++ gap) (.members [(s, v)]) := by
  intro fuel read rest hfuel
  rw [List.length_append] at hfuel
  cases fuel with
  | zero =>
    obtain ⟨_, _, _, _, _, _, hnone⟩ := ih 0 [] (by omega) (stopsAt_nil _)
    cases hnone
  | succ fuel =>
    obtain ⟨behind, afterKey, afterColon, hbehind, hkey, hcolon, hvalue⟩ :=
      ih fuel (gap ++ '}' :: rest) (by omega) (stopsAt_gap hgap (by decide) rest)
    have hskip : skipBlanks (gap ++ '}' :: rest) = '}' :: rest :=
      skipBlanks_append hgap (stopsAt_cons (by decide) rest)
    rw [List.append_assoc, hbehind, objectRest_of_lastMember read hkey hcolon hvalue hskip]
    rfl

theorem isRead_of_more {cs gap gap' more : List Char} {s : RawText} {v : RawJson}
    {ms : List (RawText × RawJson)} (ih : IsRead cs (.member s v)) (hgap : IsGap gap)
    (hgap' : IsGap gap') (hmore : Denotes more (.members ms)) (ihmore : IsRead more (.members ms)) :
    IsRead (cs ++ (gap ++ ',' :: (gap' ++ more))) (.members ((s, v) :: ms)) := by
  intro fuel read rest hfuel
  simp only [List.length_cons, List.length_append] at hfuel
  cases fuel with
  | zero => omega
  | succ fuel =>
    obtain ⟨behind, afterKey, afterColon, hbehind, hkey, hcolon, hvalue⟩ :=
      ih fuel (gap ++ ',' :: (gap' ++ (more ++ '}' :: rest))) (by omega)
        (stopsAt_gap hgap (by decide) _)
    have hskip : skipBlanks (gap ++ ',' :: (gap' ++ (more ++ '}' :: rest))) =
        ',' :: (gap' ++ (more ++ '}' :: rest)) :=
      skipBlanks_append hgap (stopsAt_cons (by decide) _)
    have hskip' : skipBlanks (gap' ++ (more ++ '}' :: rest)) = more ++ '}' :: rest :=
      skipBlanks_append hgap' (stopsAt_of_denotes hmore _)
    have htext : cs ++ (gap ++ ',' :: (gap' ++ more)) ++ '}' :: rest = '"' :: behind := by
      rw [← hbehind]
      simp
    rw [htext, objectRest_of_member read hkey hcolon hvalue hskip, hskip',
      ihmore fuel (Entries.put read s v) rest (by omega)]
    rfl

/-- **What a text denotes is read**, part by part. -/
theorem isRead_of_denotes {cs : List Char} {part : Part} (h : Denotes cs part) : IsRead cs part := by
  induction h with
  | word h => exact isRead_of_word h
  | number h => exact isRead_of_number h
  | string h => exact isRead_of_string h
  | emptyArray hgap => exact isRead_of_emptyArray hgap
  | array hgap h ih => exact isRead_of_array hgap h ih
  | emptyObject hgap => exact isRead_of_emptyObject hgap
  | object hgap h ih => exact isRead_of_object hgap h ih
  | lastItem h hgap ih => exact isRead_of_lastItem ih hgap
  | item h hgap hgap' hrest ih ihrest => exact isRead_of_item ih hgap hgap' hrest ihrest
  | member hkey hgap hgap' h ih => exact isRead_of_member hkey hgap hgap' h ih
  | lastMember h hgap ih => exact isRead_of_lastMember ih hgap
  | more h hgap hgap' hrest ih ihrest => exact isRead_of_more ih hgap hgap' hrest ihrest

/-! ## 2. Texts -/

theorem isTextOf_of_whole {cs : List Char} {v : RawJson} (h : document.whole cs = .ok v) :
    IsTextOf cs v := by
  unfold document.whole at h
  split at h
  · cases h
  · rename_i u rest hvalue
    obtain ⟨before, hbefore, hcs⟩ := exists_gap cs
    obtain ⟨body, hskip, hbody⟩ := (readsParts _).value hvalue
    split at h
    · rename_i hrest
      cases h
      obtain ⟨behind, hbehind, hgap⟩ := exists_of_skipBlanks hrest
      rw [List.append_nil] at hgap
      refine ⟨before, body, behind, hbefore, hbody, hbehind, ?_⟩
      rw [hcs, hskip, hgap]
    · cases h

theorem whole_of_isTextOf {cs : List Char} {v : RawJson} (h : IsTextOf cs v) :
    document.whole cs = .ok v := by
  obtain ⟨before, body, behind, hbefore, hbody, hbehind, rfl⟩ := h
  have hstart : skipBlanks (before ++ (body ++ behind)) = body ++ behind :=
    skipBlanks_append hbefore (stopsAt_of_denotes hbody behind)
  have hend : skipBlanks behind = [] := by
    have hskip := skipBlanks_append hbehind (stopsAt_nil isJsonBlank)
    rw [List.append_nil] at hskip
    exact hskip
  have hfuel : 2 * body.length ≤ 2 * (before ++ (body ++ behind)).length + 1 + 1 := by
    simp only [List.length_append]
    omega
  have hvalue := isRead_of_denotes hbody _ behind hfuel (stopsAt_of_isGap hbehind)
  unfold document.whole
  rw [hstart, hvalue]
  dsimp only
  rw [hend]

/-- A text that denotes a value does not begin with a byte order mark. -/
theorem head?_of_isTextOf {cs : List Char} {v : RawJson} (h : IsTextOf cs v) :
    cs.head? ≠ some (Char.ofNat 0xFEFF) := by
  obtain ⟨before, body, behind, hbefore, hbody, _, rfl⟩ := h
  intro hhead
  cases before with
  | nil =>
    obtain ⟨c, more, rfl, hc⟩ := exists_cons_of_denotes hbody
    rw [Option.some.inj hhead] at hc
    exact absurd hc (by decide)
  | cons c before =>
    have hc := hbefore c List.mem_cons_self
    rw [Option.some.inj hhead] at hc
    exact absurd hc (by decide)

theorem document_cases (cs : List Char) :
    (cs.head? = some (Char.ofNat 0xFEFF) ∧
      document cs = .error (.malformed .byteOrderMark cs.length)) ∨
    document cs = document.whole cs := by
  cases cs with
  | nil => exact Or.inr rfl
  | cons c rest =>
    unfold document
    dsimp only
    split
    · rename_i hmark
      exact Or.inl ⟨congrArg some hmark, rfl⟩
    · exact Or.inr rfl

theorem document_eq_ok_iff {cs : List Char} {v : RawJson} :
    document cs = .ok v ↔ IsTextOf cs v := by
  rcases document_cases cs with ⟨hmark, heq⟩ | heq
  · rw [heq]
    refine ⟨fun h => ?_, fun h => absurd hmark (head?_of_isTextOf h)⟩
    cases h
  · rw [heq]
    exact ⟨isTextOf_of_whole, whole_of_isTextOf⟩

theorem holdsLongInteger_of_document {cs : List Char} {n : Nat}
    (h : document cs = .error (.tooManyDigits n)) : HoldsLongInteger cs n := by
  rcases document_cases cs with ⟨_, heq⟩ | heq
  · rw [heq] at h
    cases h
  · rw [heq] at h
    unfold document.whole at h
    split at h
    · rename_i halt hvalue
      cases h
      exact holdsLongInteger_of_skipBlanks ((refusesLongIntegers _).value hvalue)
    · split at h
      · cases h
      · cases h

end Reader

/-- **The reader gives the value that a text denotes**, and no value where it denotes none. -/
theorem RawJson.read_eq_ok_iff {cs : List Char} {v : RawJson} :
    RawJson.read cs = .ok v ↔ IsTextOf cs v := by
  unfold RawJson.read
  rw [← Reader.document_eq_ok_iff]
  cases Reader.document cs with
  | ok u => simp
  | error halt => simp

/-- **A value of texts of characters is read where a text denotes it**, and nowhere else. -/
theorem Json.read_eq_ok_iff {cs : List Char} {v : Json} :
    Json.read cs = .ok v ↔ IsTextOf cs v.raw := by
  unfold Json.read
  rw [← RawJson.read_eq_ok_iff]
  cases RawJson.read cs with
  | error fault => simp
  | ok u =>
    dsimp only
    rw [Except.ok.injEq, ← JsonOf.json?_eq_some_iff]
    cases u.json? with
    | none => simp
    | some w => simp

/-- **A text denotes one value at most.** -/
theorem IsTextOf.unique {cs : List Char} {v w : RawJson} (hv : IsTextOf cs v) (hw : IsTextOf cs w) :
    v = w := by
  have hread := RawJson.read_eq_ok_iff.mpr hv
  rw [RawJson.read_eq_ok_iff.mpr hw] at hread
  exact (Except.ok.inj hread).symm

/-- **An integer with too many digits** stands in every text that is refused for one. -/
theorem RawJson.holdsLongInteger_of_read {cs : List Char} {n : Nat}
    (h : RawJson.read cs = .error (.tooManyDigits n)) : Reader.HoldsLongInteger cs n := by
  unfold RawJson.read at h
  split at h
  · cases h
  · rename_i halt hdocument
    cases halt with
    | malformed flaw left => cases h
    | tooManyDigits count =>
      cases h
      exact Reader.holdsLongInteger_of_document hdocument

end SampleSchema
