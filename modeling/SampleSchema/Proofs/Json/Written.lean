import SampleSchema.Json.Printer
import SampleSchema.Proofs.Json.Characters
import SampleSchema.Proofs.Json.TooManyDigits
import SampleSchema.Proofs.Number.Spelled

/-!
# Reading what was written

The text of a file and the text of a record are read as the value that was written, whatever the
strings in it hold and whatever its doubles are (`Json.read_fileText`, `Json.read_recordText`). The
one exception is an integer with too many digits: it is written like any other, and the text is
refused for it.

Two things cannot be written. What is no finite double is written `null`, and of two members of an
object with one key only the later is read. A value without them is WRITABLE (`JsonOf.IsWritable`).
-/

namespace SampleSchema

/-! ## 1. What can be written -/

/-- **A value that a text can hold**: its doubles are finite, and each object holds each key once. -/
inductive JsonOf.IsWritable : Json → Prop where
  | null : IsWritable .null
  | bool (b : Bool) : IsWritable (.bool b)
  | int (z : Int) : IsWritable (.int z)
  | double (negative : Bool) (m : Magnitude) : IsWritable (.double (.finite negative m))
  | str (s : String) : IsWritable (.str s)
  | arr {items : List Json} (h : ∀ v ∈ items, IsWritable v) : IsWritable (.arr items)
  | obj {ms : List (String × Json)} (hkeys : (Entries.keys ms).Nodup)
      (h : ∀ e ∈ ms, IsWritable e.2) : IsWritable (.obj ms)

/-- With how many digits an integer is written. -/
def digitCount (z : Int) : Nat := (Nat.toDigits 10 z.natAbs).length

theorem digitCount_le_iff {n count : Nat} (hcount : 0 < count) :
    digitCount n ≤ count ↔ n < 10 ^ count := by
  unfold digitCount
  rw [Int.natAbs_natCast]
  exact Nat.length_toDigits_le_iff (by decide) hcount

mutual

/-- The number of digits of the first integer in a value that has too many. -/
def JsonOf.overlong? : Json → Option Nat
  | .int z => if Numeral.maxDigits < digitCount z then some (digitCount z) else none
  | .arr items => overlongItem? items
  | .obj ms => overlongMember? ms
  | _ => none

/-- The same for the items of an array. -/
def JsonOf.overlongItem? : List Json → Option Nat
  | [] => none
  | v :: rest => (overlong? v).or (overlongItem? rest)

/-- The same for the members of an object. -/
def JsonOf.overlongMember? : List (String × Json) → Option Nat
  | [] => none
  | (_, v) :: rest => (overlong? v).or (overlongMember? rest)

end

theorem JsonOf.overlongItem?_append (vs ws : List Json) :
    overlongItem? (vs ++ ws) = (overlongItem? vs).or (overlongItem? ws) := by
  induction vs with
  | nil => rfl
  | cons v rest ih => rw [List.cons_append, overlongItem?, ih, overlongItem?, Option.or_assoc]

/-- The same for a part of a text. -/
def PartOf.overlong? : PartOf String → Option Nat
  | .value v => v.overlong?
  | .items vs => JsonOf.overlongItem? vs
  | .member _ v => v.overlong?
  | .members ms => JsonOf.overlongMember? ms

/-! ## 2. What a text carries -/

/-- A part of a text as it is read. -/
def PartOf.raw : PartOf String → Part
  | .value v => .value v.raw
  | .items vs => .items (JsonOf.mapItems CodePoint.ofText vs)
  | .member key v => .member (CodePoint.ofText key) v.raw
  | .members ms => .members (JsonOf.mapMembers CodePoint.ofText ms)

/-- **A text carries a part**: it denotes the part, or is refused for the first integer in it that
    has too many digits. It holds no line end that would be folded. -/
structure Carries (cs : List Char) (part : PartOf String) : Prop where
  denotes : part.overlong? = none → Denotes cs part.raw
  overruns : ∀ n, part.overlong? = some n → Overruns n part.kind cs
  unfolded : '\r' ∉ cs

/-- **Blanks that every reader leaves alone**: none of them is a line end that would be folded. -/
structure IsPlainGap (gap : List Char) : Prop where
  isGap : IsGap gap
  unfolded : '\r' ∉ gap

theorem isPlainGap_nil : IsPlainGap [] where
  isGap := isGap_nil
  unfolded := List.not_mem_nil

theorem isPlainGap_blank : IsPlainGap [' '] where
  isGap := List.forall_mem_singleton.mpr rfl
  unfolded := by decide

/-- The start of a line, so many levels deep. -/
def lineStart (depth : Nat) : List Char := '\n' :: List.replicate (2 * depth) ' '

theorem isPlainGap_lineStart (depth : Nat) : IsPlainGap (lineStart depth) where
  isGap c hc := by
    rcases List.mem_cons.mp hc with rfl | hc
    · decide
    · rw [List.eq_of_mem_replicate hc]
      decide
  unfolded hr := by
    rcases List.mem_cons.mp hr with hr | hr
    · exact absurd hr (by decide)
    · exact absurd (List.eq_of_mem_replicate hr) (by decide)

namespace Carries

variable {cs more : List Char}

/-- A text that denotes a part without such an integer carries it. -/
theorem of_denotes {part : PartOf String} (h : Denotes cs part.raw) (hnone : part.overlong? = none)
    (hunfolded : '\r' ∉ cs) : Carries cs part where
  denotes _ := h
  overruns n hn := by
    rw [hnone] at hn
    cases hn
  unfolded := hunfolded

section Layout

variable {gap : List Char} (hgap : IsPlainGap gap)
include hgap

/-- Items between brackets carry an array. -/
theorem array {items : List Json} (h : Carries cs (.items items)) :
    Carries ('[' :: (gap ++ (cs ++ [']']))) (.value (.arr items)) where
  denotes hnone := .array hgap.isGap (h.denotes hnone)
  overruns n hn := .array hgap.isGap (h.overruns n hn)
  unfolded := by simp [hgap.unfolded, h.unfolded]

/-- Members between braces carry an object, if they hold each key once. -/
theorem object {ms : List (String × Json)} (hkeys : (Entries.keys ms).Nodup)
    (h : Carries cs (.members ms)) :
    Carries ('{' :: (gap ++ (cs ++ ['}']))) (.value (.obj ms)) where
  denotes hnone := by
    have hdistinct : (Entries.keys (JsonOf.mapMembers CodePoint.ofText ms)).Nodup := by
      rw [JsonOf.keys_mapMembers]
      exact List.Pairwise.map _ (fun _ _ hne h => hne (CodePoint.ofText_injective h)) hkeys
    have hobject := Denotes.object hgap.isGap (h.denotes hnone)
    rw [Entries.ofPairs_of_nodup hdistinct] at hobject
    exact hobject
  overruns n hn := .object hgap.isGap (h.overruns n hn)
  unfolded := by simp [hgap.unfolded, h.unfolded]

theorem lastItem {v : Json} (h : Carries cs (.value v)) : Carries (cs ++ gap) (.items [v]) where
  denotes hnone := .lastItem (h.denotes (Option.or_none.symm.trans hnone)) hgap.isGap
  overruns n hn := .firstItem (h.overruns n (Option.or_none.symm.trans hn))
    (stopsAt_of_isGap hgap.isGap)
  unfolded := by simp [hgap.unfolded, h.unfolded]

theorem item {v : Json} {vs : List Json} (h : Carries cs (.value v))
    (hmore : Carries more (.items vs)) :
    Carries (cs ++ ',' :: (gap ++ more)) (.items (v :: vs)) where
  denotes hnone := by
    obtain ⟨hv, hvs⟩ := Option.or_eq_none_iff.mp hnone
    exact .item (h.denotes hv) isGap_nil hgap.isGap (hmore.denotes hvs)
  overruns n hn := by
    rcases Option.or_eq_some_iff.mp hn with hv | ⟨hv, hvs⟩
    · exact .firstItem (h.overruns n hv) (stopsAt_cons (by decide) _)
    · exact .laterItem (h.denotes hv) isGap_nil hgap.isGap (hmore.overruns n hvs)
  unfolded := by simp [hgap.unfolded, h.unfolded, hmore.unfolded]

/-- A key and a colon in front of a value carry a member. -/
theorem member {key : List Char} {s : String} {v : Json}
    (hkey : SpellsString key (CodePoint.ofText s)) (hunfolded : '\r' ∉ key)
    (h : Carries cs (.value v)) :
    Carries ('"' :: (key ++ '"' :: ':' :: (gap ++ cs))) (.member s v) where
  denotes hnone := .member hkey isGap_nil hgap.isGap (h.denotes hnone)
  overruns n hn := .member hkey isGap_nil hgap.isGap (h.overruns n hn)
  unfolded := by simp [hunfolded, hgap.unfolded, h.unfolded]

theorem lastMember {s : String} {v : Json} (h : Carries cs (.member s v)) :
    Carries (cs ++ gap) (.members [(s, v)]) where
  denotes hnone := .lastMember (h.denotes (Option.or_none.symm.trans hnone)) hgap.isGap
  overruns n hn := .firstMember (h.overruns n (Option.or_none.symm.trans hn))
    (stopsAt_of_isGap hgap.isGap)
  unfolded := by simp [hgap.unfolded, h.unfolded]

theorem laterMember {s : String} {v : Json} {ms : List (String × Json)}
    (h : Carries cs (.member s v)) (hmore : Carries more (.members ms)) :
    Carries (cs ++ ',' :: (gap ++ more)) (.members ((s, v) :: ms)) where
  denotes hnone := by
    obtain ⟨hv, hms⟩ := Option.or_eq_none_iff.mp hnone
    exact .more (h.denotes hv) isGap_nil hgap.isGap (hmore.denotes hms)
  overruns n hn := by
    rcases Option.or_eq_some_iff.mp hn with hv | ⟨hv, hms⟩
    · exact .firstMember (h.overruns n hv) (stopsAt_cons (by decide) _)
    · exact .laterMember (h.denotes hv) isGap_nil hgap.isGap (hmore.overruns n hms)
  unfolded := by simp [hgap.unfolded, h.unfolded, hmore.unfolded]

end Layout

end Carries

/-- Pieces with a comma and a gap between them, and another gap behind the last. -/
def rowText (between behind : List Char) (pieces : List (List Char)) : List Char :=
  (',' :: between).intercalate pieces ++ behind

theorem rowText_singleton (between behind piece : List Char) :
    rowText between behind [piece] = piece ++ behind := by
  unfold rowText
  rw [List.intercalate_singleton]

theorem rowText_cons_cons (between behind piece next : List Char) (rest : List (List Char)) :
    rowText between behind (piece :: next :: rest) =
      piece ++ ',' :: (between ++ rowText between behind (next :: rest)) := by
  unfold rowText
  rw [List.intercalate_cons_cons]
  simp

namespace Carries

section Rows

variable {between behind : List Char} (hbetween : IsPlainGap between) (hbehind : IsPlainGap behind)
include hbetween hbehind

/-- **A row carries the items of an array**, if each piece of it carries its item. -/
theorem items {vs : List Json} (hne : vs ≠ []) {piece : Json → List Char}
    (h : ∀ v ∈ vs, Carries (piece v) (.value v)) :
    Carries (rowText between behind (vs.map piece)) (.items vs) := by
  induction vs with
  | nil => exact absurd rfl hne
  | cons v rest ih =>
    have hv := h v List.mem_cons_self
    cases rest with
    | nil =>
      rw [List.map_cons, List.map_nil, rowText_singleton]
      exact hv.lastItem hbehind
    | cons w rest =>
      rw [List.map_cons, List.map_cons, rowText_cons_cons]
      exact hv.item hbetween (ih (List.cons_ne_nil _ _) fun u hu => h u (List.mem_cons_of_mem _ hu))

/-- **A row carries the members of an object**, if each piece of it carries its member. -/
theorem members {ms : List (String × Json)} (hne : ms ≠ []) {piece : String × Json → List Char}
    (h : ∀ e ∈ ms, Carries (piece e) (.member e.1 e.2)) :
    Carries (rowText between behind (ms.map piece)) (.members ms) := by
  induction ms with
  | nil => exact absurd rfl hne
  | cons e rest ih =>
    have he := h e List.mem_cons_self
    cases rest with
    | nil =>
      rw [List.map_cons, List.map_nil, rowText_singleton]
      exact he.lastMember hbehind
    | cons next rest =>
      rw [List.map_cons, List.map_cons, rowText_cons_cons]
      exact he.laterMember hbetween
        (ih (List.cons_ne_nil _ _) fun u hu => h u (List.mem_cons_of_mem _ hu))

end Rows

end Carries

/-! ## 3. Values without parts -/

namespace JsonLayout

theorem hexText_control : ∀ n < 0x20, hexText 4 n =
    ['0', '0', Nat.digitChar (n / 16), Nat.digitChar (n % 16)] := by decide

theorem hexDigit?_digitChar : ∀ d < 16, hexDigit? (Nat.digitChar d) = some d := by decide

/-- A control character as a `\u` escape. -/
theorem spellsPieces_control {n : Nat} (hn : n < 0x20) {raw : List Char}
    {pieces : List StringPiece} (h : SpellsPieces raw pieces) :
    SpellsPieces ('\\' :: 'u' :: (hexText 4 n ++ raw)) (.inr n :: pieces) := by
  have hzero : hexDigit? '0' = some 0 := by decide
  have hspells := SpellsPieces.unicode hzero hzero (hexDigit?_digitChar (n / 16) (by omega))
    (hexDigit?_digitChar (n % 16) (by omega)) h
  have hvalue : ((0 * 16 + 0) * 16 + n / 16) * 16 + n % 16 = n := by omega
  rw [hvalue] at hspells
  rw [hexText_control n hn]
  exact hspells

/-- **How a character of a string is written.** -/
inductive Escapes (c : Char) : List Char → Prop
  | short {e : Char} (h : Reader.shortEscape? e = some c) : Escapes c ['\\', e]
  | control (h : c.toNat < 0x20) : Escapes c ('\\' :: 'u' :: hexText 4 c.toNat)
  | plain (hquote : c ≠ '"') (hslash : c ≠ '\\') (hcontrol : 0x20 ≤ c.toNat) : Escapes c [c]

theorem exists_escapes (c : Char) : ∃ written, compact.escape c = written ∧ Escapes c written := by
  refine ⟨_, rfl, ?_⟩
  by_cases hshort : c ∈ ['"', '\\', '\n', '\r', '\t', '\x08', '\x0c']
  · simp only [List.mem_cons, List.not_mem_nil, or_false] at hshort
    rcases hshort with rfl | rfl | rfl | rfl | rfl | rfl | rfl
    all_goals exact .short rfl
  · simp only [List.mem_cons, List.not_mem_nil, or_false, not_or] at hshort
    obtain ⟨hquote, hslash, hline, hreturn, htab, hback, hfeed⟩ := hshort
    unfold escape
    rw [if_neg hquote, if_neg hslash, if_neg hline, if_neg hreturn, if_neg htab, if_neg hback,
      if_neg hfeed]
    split
    · rename_i hcontrol
      have hunits : unicodeEscape c = '\\' :: 'u' :: hexText 4 c.toNat := by
        unfold unicodeEscape units16
        rw [if_pos (by omega)]
        exact List.append_nil _
      rw [hunits]
      exact .control hcontrol
    · rw [if_neg fun hascii => Bool.false_ne_true hascii.1]
      exact .plain hquote hslash (by omega)

/-- **A character of a string is written as one piece**, which stands for just that character. -/
theorem exists_piece (c : Char) : ∃ piece,
    (∀ {raw pieces}, SpellsPieces raw pieces →
      SpellsPieces (compact.escape c ++ raw) (piece :: pieces)) ∧
    ∀ pieces, joinUnits (piece :: pieces) = .char c :: joinUnits pieces := by
  obtain ⟨written, hwritten, hescapes⟩ := exists_escapes c
  rw [hwritten]
  cases hescapes with
  | short h => exact ⟨.inl c, .short h, fun _ => rfl⟩
  | control h =>
    refine ⟨.inr c.toNat, spellsPieces_control h, fun pieces => ?_⟩
    have hhigh : ¬ IsHighUnit c.toNat := by
      unfold IsHighUnit
      omega
    have hunit : CodePoint.ofUnit c.toNat = .char (Char.ofNat c.toNat) := dif_neg (by omega)
    rw [Reader.joinUnits_cons_of_not_high hhigh, hunit, Char.ofNat_toNat]
  | plain hquote hslash hcontrol => exact ⟨.inl c, .plain hquote hslash hcontrol, fun _ => rfl⟩

/-- **A string is written as itself.** -/
theorem spellsString_escape (s : String) :
    SpellsString (s.toList.flatMap compact.escape) (CodePoint.ofText s) := by
  have hpieces : ∀ cs : List Char, ∃ pieces,
      SpellsPieces (cs.flatMap compact.escape) pieces ∧ joinUnits pieces = cs.map .char := by
    intro cs
    induction cs with
    | nil => exact ⟨[], .nil, rfl⟩
    | cons c cs ih =>
      obtain ⟨pieces, hspells, hjoin⟩ := ih
      obtain ⟨piece, hpiece, hcons⟩ := exists_piece c
      exact ⟨piece :: pieces, hpiece hspells, (hcons pieces).trans (hjoin ▸ rfl)⟩
  obtain ⟨pieces, hspells, hjoin⟩ := hpieces s.toList
  exact ⟨pieces, hspells, hjoin.symm⟩

/-- Line ends are escaped. -/
theorem not_mem_escape (c : Char) : '\r' ∉ compact.escape c := by
  have hdigits : ∀ n < 0x20, '\r' ∉ hexText 4 n := by decide
  obtain ⟨written, hwritten, hescapes⟩ := exists_escapes c
  rw [hwritten]
  cases hescapes with
  | @short e h =>
    have he : e ≠ '\r' := by
      rintro rfl
      cases h
    simp [Ne.symm he]
  | control h => simp [hdigits _ h]
  | plain _ _ hcontrol =>
    have hc : c ≠ '\r' := by
      rintro rfl
      exact absurd hcontrol (by decide)
    simp [Ne.symm hc]

theorem toList_string (s : String) :
    (compact.string s).toList = '"' :: (s.toList.flatMap compact.escape ++ ['"']) :=
  String.toList_ofList

theorem not_mem_escaped (s : String) : '\r' ∉ s.toList.flatMap compact.escape := by
  intro hr
  obtain ⟨c, _, hc⟩ := List.mem_flatMap.mp hr
  exact not_mem_escape c hc

/-- **A string carries itself.** -/
theorem carries_string (s : String) : Carries (compact.string s).toList (.value (.str s)) := by
  rw [toList_string]
  refine .of_denotes (.string (spellsString_escape s)) rfl ?_
  have hraw := not_mem_escaped s
  simp only [List.mem_cons, List.mem_append, hraw]
  decide

/-! ### Numbers -/

end JsonLayout

theorem not_mem_of_isDigits {digits : List Char} (h : IsDigits digits) {c : Char}
    (hc : isAsciiDigit c = false) : c ∉ digits := by
  intro hmem
  rw [h.2 c hmem] at hc
  cases hc

theorem not_mem_minusSign (negative : Bool) : '\r' ∉ minusSign negative := by
  cases negative
  · decide
  · decide

theorem not_mem_pointed {fraction : List Char} (h : fraction = [] ∨ IsDigits fraction) :
    '\r' ∉ pointed fraction := by
  unfold pointed
  rcases h with rfl | h
  · decide
  · rw [if_neg h.1]
    simp [not_mem_of_isDigits h (c := '\r') (by decide)]

theorem not_mem_of_spellsExponent {cs : List Char} {e : Int} (h : SpellsExponent cs e) :
    '\r' ∉ cs := by
  have hletter : ∀ {c : Char}, c = 'e' ∨ c = 'E' → ¬ '\r' = c := by
    rintro c (rfl | rfl)
    · decide
    · decide
  have hnone : isAsciiDigit '\r' = false := by decide
  cases h with
  | bare hc hdigits => simp [hletter hc, not_mem_of_isDigits hdigits hnone]
  | plus hc hdigits => simp [hletter hc, not_mem_of_isDigits hdigits hnone]
  | minus hc hdigits => simp [hletter hc, not_mem_of_isDigits hdigits hnone]

/-- No line end stands in a number. -/
theorem not_mem_of_spellsNumber {body : List Char} {v : RawJson} (h : SpellsNumber body v) :
    '\r' ∉ body := by
  have hnone : isAsciiDigit '\r' = false := by decide
  cases h with
  | int hwhole => simp [not_mem_minusSign, not_mem_of_isDigits hwhole.1 hnone]
  | fraction hwhole hfraction =>
    simp [not_mem_minusSign, not_mem_of_isDigits hwhole.1 hnone, not_mem_pointed (.inr hfraction)]
  | exponent hwhole hfraction he =>
    simp [not_mem_minusSign, not_mem_of_isDigits hwhole.1 hnone, not_mem_pointed hfraction,
      not_mem_of_spellsExponent he]

/-- **An integer carries itself**, whatever its size. -/
theorem carries_integer (z : Int) : Carries (toString z).toList (.value (.int z)) where
  denotes hnone := by
    refine .number (spellsNumber_toString ?_)
    refine Nat.le_of_not_lt fun hmany => ?_
    have hsome : JsonOf.overlong? (.int z) = some (digitCount z) := if_pos hmany
    rw [show PartOf.overlong? (.value (.int z)) = JsonOf.overlong? (.int z) from rfl, hsome] at hnone
    cases hnone
  overruns n hn := by
    have hif : (if Numeral.maxDigits < digitCount z then some (digitCount z) else none) = some n := hn
    split at hif
    · rename_i hmany
      cases hif
      rw [toList_toString]
      exact .integer _ (isWhole_toDigits _) rfl hmany
    · cases hif
  unfolded := by
    rw [toList_toString]
    simp [not_mem_minusSign, not_mem_of_isDigits (isDigits_toDigits z.natAbs) (c := '\r') (by decide)]

/-! ## 4. The text of a record -/

namespace JsonLayout

theorem texts_eq (layout : JsonLayout) (items : List Json) :
    layout.texts items = items.map layout.text := by
  induction items with
  | nil => rfl
  | cons v rest ih => rw [texts, ih, List.map_cons]

theorem memberTexts_eq (layout : JsonLayout) (ms : List (String × Json)) :
    layout.memberTexts ms =
      ms.map fun e => layout.string e.1 ++ layout.colon ++ layout.text e.2 := by
  induction ms with
  | nil => rfl
  | cons e rest ih => rw [memberTexts, ih, List.map_cons]

theorem toList_text_arr (items : List Json) : (compact.text (.arr items)).toList =
    '[' :: ([] ++ (rowText [] [] (items.map fun v => (compact.text v).toList) ++ [']'])) := by
  have hcomma : compact.comma.toList = [','] := rfl
  simp [text, texts_eq, hcomma, rowText, Function.comp_def]

theorem toList_text_obj (ms : List (String × Json)) : (compact.text (.obj ms)).toList =
    '{' :: ([] ++ (rowText [] []
      (ms.map fun e => (compact.string e.1 ++ ":" ++ compact.text e.2).toList) ++ ['}'])) := by
  have hcomma : compact.comma.toList = [','] := rfl
  have hcolon : compact.colon.toList = [':'] := rfl
  simp [text, memberTexts_eq, hcomma, hcolon, rowText, Function.comp_def]

/-- A key, a colon with a gap behind it, and a value carry a member. -/
theorem carries_member {colon : String} {gap : List Char} (hcolon : colon.toList = ':' :: gap)
    (hgap : IsPlainGap gap) (key : String) {value : String} {v : Json}
    (h : Carries value.toList (.value v)) :
    Carries (compact.string key ++ colon ++ value).toList (.member key v) := by
  have hmember := h.member hgap (spellsString_escape key) (not_mem_escaped key)
  rw [String.toList_append, String.toList_append, toList_string, hcolon]
  simpa using hmember

/-- **The text of a record carries the value.** -/
theorem carries_text {v : Json} (hv : v.IsWritable) :
    Carries (compact.text v).toList (.value v) := by
  induction hv with
  | null =>
    show Carries "null".toList _
    exact .of_denotes (.word (by simp [Reader.words, JsonOf.raw, JsonOf.mapTexts])) rfl (by decide)
  | bool b =>
    cases b with
    | true =>
      show Carries "true".toList _
      exact .of_denotes (.word (by simp [Reader.words, JsonOf.raw, JsonOf.mapTexts])) rfl
        (by decide)
    | false =>
      show Carries "false".toList _
      exact .of_denotes (.word (by simp [Reader.words, JsonOf.raw, JsonOf.mapTexts])) rfl
        (by decide)
  | int z => exact carries_integer z
  | double negative m =>
    have hspells := Spelling.saved.spellsNumber_text negative m
    exact .of_denotes (.number hspells) rfl (not_mem_of_spellsNumber hspells)
  | str s => exact carries_string s
  | @arr items _ ih =>
    by_cases hne : items = []
    · subst hne
      show Carries ['[', ']'] _
      exact .of_denotes (.emptyArray isGap_nil) rfl (by decide)
    · rw [toList_text_arr]
      exact .array isPlainGap_nil (.items isPlainGap_nil isPlainGap_nil hne ih)
  | @obj ms hkeys _ ih =>
    by_cases hne : ms = []
    · subst hne
      show Carries ['{', '}'] _
      exact .of_denotes (.emptyObject isGap_nil) rfl (by decide)
    · rw [toList_text_obj]
      refine .object isPlainGap_nil hkeys (.members isPlainGap_nil isPlainGap_nil hne ?_)
      exact fun e he => carries_member rfl isPlainGap_nil e.1 (ih e he)

end JsonLayout

/-! ## 5. The text of a file -/

/-- Separators and beginnings of lines are separators of lines. -/
theorem intercalate_map_append {α : Type} (separator before : List α) {pieces : List (List α)}
    (h : pieces ≠ []) :
    separator.intercalate (pieces.map (before ++ ·)) =
      before ++ (separator ++ before).intercalate pieces := by
  induction pieces with
  | nil => exact absurd rfl h
  | cons piece rest ih =>
    cases rest with
    | nil => simp
    | cons next rest =>
      rw [List.map_cons, List.map_cons, List.intercalate_cons_cons, List.intercalate_cons_cons,
        ← List.map_cons, ih (List.cons_ne_nil _ _)]
      simp

namespace JsonLayout

theorem indentedItems_eq (layout : JsonLayout) (depth : Nat) (items : List Json) :
    layout.indentedItems depth items = items.map (layout.indented depth) := by
  induction items with
  | nil => rfl
  | cons v rest ih => rw [indentedItems, ih, List.map_cons]

theorem indentedMembers_eq (layout : JsonLayout) (depth : Nat) (ms : List (String × Json)) :
    layout.indentedMembers depth ms =
      ms.map fun e => layout.string e.1 ++ ": " ++ layout.indented depth e.2 := by
  induction ms with
  | nil => rfl
  | cons e rest ih => rw [indentedMembers, ih, List.map_cons]

/-- Lines between two brackets are a row of lines. -/
theorem toList_block {α : Type} (depth : Nat) (opening closing : String) {parts : List α}
    (h : parts ≠ []) (line : α → String) :
    (block depth opening closing (parts.map line)).toList =
      opening.toList ++ (lineStart (depth + 1) ++
        (rowText (lineStart (depth + 1)) (lineStart depth)
          (parts.map fun part => (line part).toList) ++ closing.toList)) := by
  have hempty : ¬ (parts.map line).isEmpty = true := by simp [h]
  have hpieces : (parts.map fun part => (line part).toList) ≠ [] := by simp [h]
  have hindent : ((parts.map line).map
      (String.ofList (List.replicate (2 * (depth + 1)) ' ') ++ ·)).map String.toList =
      (parts.map fun part => (line part).toList).map
        (List.replicate (2 * (depth + 1)) ' ' ++ ·) := by
    simp
  unfold block
  dsimp only
  rw [if_neg hempty]
  simp only [String.toList_append, String.toList_intercalate, hindent,
    intercalate_map_append _ _ hpieces, String.toList_ofList]
  simp [lineStart, rowText]

/-- **The text of a file carries the value**, at any depth. -/
theorem carries_indented {v : Json} (hv : v.IsWritable) (depth : Nat) :
    Carries (compact.indented depth v).toList (.value v) := by
  have hinside := isPlainGap_lineStart (depth + 1)
  have hbehind := isPlainGap_lineStart depth
  induction hv generalizing depth with
  | null => exact carries_text .null
  | bool b => exact carries_text (.bool b)
  | int z => exact carries_text (.int z)
  | double negative m => exact carries_text (.double negative m)
  | str s => exact carries_text (.str s)
  | @arr items h ih =>
    by_cases hne : items = []
    · subst hne
      exact carries_text (.arr h)
    · rw [indented, indentedItems_eq, toList_block depth _ _ hne]
      refine .array hinside (.items hinside hbehind hne fun v hv => ?_)
      exact ih v hv (depth + 1) (isPlainGap_lineStart _) (isPlainGap_lineStart _)
  | @obj ms hkeys h ih =>
    by_cases hne : ms = []
    · subst hne
      exact carries_text (.obj hkeys h)
    · rw [indented, indentedMembers_eq, toList_block depth _ _ hne]
      refine .object hinside hkeys (.members hinside hbehind hne fun e he => ?_)
      refine carries_member rfl isPlainGap_blank e.1 ?_
      exact ih e he (depth + 1) (isPlainGap_lineStart _) (isPlainGap_lineStart _)

end JsonLayout

/-! ## 6. Reading what was written -/

/-- **A text that carries a value is read as the value**, or refused for the first integer in it
    with too many digits. -/
theorem Carries.read_eq {cs : List Char} {v : Json} (h : Carries cs (.value v)) :
    Json.read cs =
      match v.overlong? with
      | none => .ok v
      | some n => .error (.tooManyDigits n) := by
  cases hoverlong : v.overlong? with
  | none =>
    have hdenotes := h.denotes hoverlong
    refine Json.read_eq_ok_iff.mpr ⟨[], cs, [], isGap_nil, hdenotes, isGap_nil, ?_⟩
    exact (List.append_nil cs).symm
  | some n => exact Json.read_of_overruns (h.overruns n hoverlong)

namespace Json

variable {v : Json}

/-- **What was written to a file is read**, unless an integer in it has too many digits: then the
    text is refused for the first such integer. -/
theorem read_fileText (h : v.IsWritable) :
    Json.read v.fileText.toList =
      match v.overlong? with
      | none => .ok v
      | some n => .error (.tooManyDigits n) :=
  (JsonLayout.carries_indented h 0).read_eq

/-- No line end of a written text is folded. -/
theorem not_mem_fileText (h : v.IsWritable) : '\r' ∉ v.fileText.toList :=
  (JsonLayout.carries_indented h 0).unfolded

/-- **What was written to a record is read**, with the same exception. -/
theorem read_recordText (h : v.IsWritable) :
    Json.read v.recordText.toList =
      match v.overlong? with
      | none => .ok v
      | some n => .error (.tooManyDigits n) :=
  (JsonLayout.carries_text h).read_eq

end Json

end SampleSchema
