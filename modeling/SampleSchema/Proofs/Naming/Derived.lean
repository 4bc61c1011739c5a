import SampleSchema.Proofs.Naming
import SampleSchema.Proofs.Naming.WordCase

/-!
# Names that files suggest

A type name can be derived from a file name, and is checked like any other. Where the words of the
file name hold nothing but characters of identifiers, putting them together moves no character but
small letters to capital ones, each to one: the name is as long as the words are, and in lower case
it is the words in lower case. So a name that begins with a letter and is not too long is refused
only if the words together spell a reserved word (`derivedTypeName_accepted`).
-/

namespace SampleSchema

/-! ## 1. Characters of identifiers in upper case -/

section Character

variable {c : Char} (h : isIdentifierPart c = true)
include h

/-- **Only small letters are moved**, and each to one character. -/
theorem upper_of_isIdentifierPart : upper c = [c.toUpper] :=
  of_forall_identifierPart (p := fun c => upper c = [c.toUpper]) (by decide +kernel) h

theorem isIdentifierPart_toUpper : isIdentifierPart c.toUpper = true :=
  of_forall_identifierPart (p := fun c => isIdentifierPart c.toUpper = true) (by decide +kernel) h

/-- A capital letter has the lower-case form of the small one. -/
theorem lower_toUpper : lower c.toUpper = lower c :=
  of_forall_identifierPart (p := fun c => lower c.toUpper = lower c) (by decide +kernel) h

end Character

theorem isIdentifierStart_toUpper {c : Char} (h : isIdentifierStart c = true) :
    isIdentifierStart c.toUpper = true :=
  of_forall_identifierPart
    (p := fun c => isIdentifierStart c = true → isIdentifierStart c.toUpper = true)
    (by decide +kernel) (isIdentifierPart_of_start h) h

/-! ## 2. Words of such characters -/

section Words

theorem upperFirst_of_identifierParts {c : Char} (h : isIdentifierPart c = true)
    (rest : List Char) : upperFirst (c :: rest) = c.toUpper :: rest := by
  show upper c ++ rest = _
  rw [upper_of_isIdentifierPart h]
  rfl

variable {pieces : List (List Char)}
  (h : ∀ piece ∈ pieces, ∀ c ∈ piece, isIdentifierPart c = true)
include h

/-- **What is true of each character in both cases is true of words put together**: a text made of
    them character by character is the same with upper-case beginnings and without. -/
theorem flatMap_upperFirst {α : Type} {f : Char → List α}
    (hf : ∀ c, isIdentifierPart c = true → f c.toUpper = f c) :
    (pieces.flatMap upperFirst).flatMap f = pieces.flatten.flatMap f := by
  induction pieces with
  | nil => rfl
  | cons piece more ih =>
    have hmore := ih fun other hother => h other (List.mem_cons_of_mem _ hother)
    have hpiece : (upperFirst piece).flatMap f = piece.flatMap f := by
      cases piece with
      | nil => rfl
      | cons c rest =>
        have hc := h _ List.mem_cons_self c List.mem_cons_self
        rw [upperFirst_of_identifierParts hc, List.flatMap_cons, List.flatMap_cons, hf c hc]
    rw [List.flatMap_cons, List.flatMap_append, hpiece, hmore, List.flatten_cons,
      List.flatMap_append]

theorem length_flatMap_upperFirst :
    (pieces.flatMap upperFirst).length = pieces.flatten.length := by
  have hcount : ∀ cs : List Char, (cs.flatMap fun _ => [()]).length = cs.length := by
    intro cs
    induction cs with
    | nil => rfl
    | cons c rest ih => exact congrArg (· + 1) ih
  have hsame := congrArg List.length (flatMap_upperFirst h (f := fun _ => [()]) fun _ _ => rfl)
  rw [hcount, hcount] at hsame
  exact hsame

theorem isIdentifierPart_of_mem_flatMap :
    ∀ c ∈ pieces.flatMap upperFirst, isIdentifierPart c = true := by
  intro c hc
  obtain ⟨piece, hpiece, hc⟩ := List.mem_flatMap.mp hc
  cases piece with
  | nil => cases hc
  | cons d rest =>
    have hd := h _ hpiece d List.mem_cons_self
    rw [upperFirst_of_identifierParts hd] at hc
    rcases List.mem_cons.mp hc with rfl | hc
    · exact isIdentifierPart_toUpper hd
    · exact h _ hpiece c (List.mem_cons_of_mem _ hc)

/-- **Words that begin with a letter make an identifier.** -/
theorem isIdentifier_flatMap_upperFirst {c : Char} {rest : List Char}
    (hflat : pieces.flatten = c :: rest) (hne : ∀ piece ∈ pieces, piece ≠ [])
    (hc : isIdentifierStart c = true) : isIdentifier (pieces.flatMap upperFirst) = true := by
  have hparts := isIdentifierPart_of_mem_flatMap h
  cases pieces with
  | nil => cases hflat
  | cons piece more =>
    obtain ⟨d, word, rfl⟩ := List.exists_cons_of_ne_nil (hne piece List.mem_cons_self)
    have hd : d = c := (List.cons.inj hflat).1
    subst hd
    rw [List.flatMap_cons, upperFirst_of_identifierParts (isIdentifierPart_of_start hc)] at hparts ⊢
    refine Bool.and_eq_true_iff.mpr ⟨isIdentifierStart_toUpper hc, ?_⟩
    exact List.all_eq_true.mpr fun e he => hparts e (List.mem_cons_of_mem _ he)

end Words

/-! ## 3. Derived names -/

/-- An identifier that is not too long is refused only as a reserved word. -/
theorem typeNameFault?_of_isIdentifier {name : String}
    (hidentifier : isIdentifier name.toList = true)
    (hshort : name.length ≤ maxTypeNameLength) :
    typeNameFault? name =
      if String.ofList (name.toList.flatMap lower) ∈ reservedWords then some (.reserved name)
      else none := by
  have hne : ¬ name.isEmpty = true := by
    intro h
    rw [String.isEmpty_iff.mp h] at hidentifier
    cases hidentifier
  unfold typeNameFault?
  rw [if_neg hne, if_neg (Nat.not_lt.mpr hshort), if_neg (by simpa using hidentifier)]
  simp only [List.contains_iff_mem]

/-- **A derived name is accepted unless it spells a reserved word.** Let the stem of a file name
    hold ASCII letters, digits and separators of words alone, let its first character that is no
    separator be a letter, and let it have at most a hundred such characters. Then the type name
    derived from it is accepted, or its words, one behind the other and in lower case, are a
    reserved word, and it is refused as that. -/
theorem derivedTypeName_accepted {file : Path}
    (hchars : ∀ c ∈ file.stem.toList,
      isAsciiLetter c = true ∨ ('0' ≤ c ∧ c ≤ '9') ∨ isWordSeparator c = true)
    (hfirst : ∃ c, file.stem.toList.find? (fun c => !isWordSeparator c) = some c ∧
      isAsciiLetter c = true)
    (hshort : file.stem.toList.countP (fun c => !isWordSeparator c) ≤ 100) :
    let joined := (words isWordSeparator file.stem.toList).flatten
    typeNameFault? (derivedTypeName file) =
      if String.ofList (joined.flatMap lower) ∈ reservedWords then
        some (.reserved (derivedTypeName file))
      else none := by
  intro joined
  have hname : (derivedTypeName file).toList =
      (words isWordSeparator file.stem.toList).flatMap upperFirst := toList_pascalCase file.stem
  have hjoined : joined = file.stem.toList.filter fun c => !isWordSeparator c :=
    flatten_words isWordSeparator file.stem.toList
  have hparts : ∀ word ∈ words isWordSeparator file.stem.toList, ∀ c ∈ word,
      isIdentifierPart c = true := by
    intro word hword c hc
    have hmem : c ∈ joined := List.mem_flatten_of_mem hword hc
    rw [hjoined] at hmem
    obtain ⟨hstem, hother⟩ := List.mem_filter.mp hmem
    rcases hchars c hstem with hletter | hdigit | hsep
    · exact isIdentifierPart_of_start (by simp [isIdentifierStart, hletter])
    · simp [isIdentifierPart, hdigit]
    · simp [hsep] at hother
  have hidentifier : isIdentifier (derivedTypeName file).toList = true := by
    obtain ⟨c, hfind, hletter⟩ := hfirst
    rw [← List.head?_filter, ← hjoined] at hfind
    obtain ⟨rest, hcons⟩ := List.head?_eq_some_iff.mp hfind
    rw [hname]
    exact isIdentifier_flatMap_upperFirst hparts hcons (fun word => ne_nil_of_mem_words)
      (by simp [isIdentifierStart, hletter])
  have hlength : (derivedTypeName file).length ≤ maxTypeNameLength := by
    rw [← String.length_toList, hname, length_flatMap_upperFirst hparts]
    show joined.length ≤ 100
    rw [hjoined, ← List.countP_eq_length_filter]
    exact hshort
  rw [typeNameFault?_of_isIdentifier hidentifier hlength, hname,
    flatMap_upperFirst hparts fun c => lower_toUpper]

/-- A file name of which the words spell a reserved word, and one of which they do not. -/
theorem derivedTypeName_accepted_instanceOf :
    let reserved := Path.ofText "data/in-STANCE_ of.json"
    let free := Path.ofText "data/user-profiles.json"
    (∀ file ∈ [reserved, free],
      (∀ c ∈ file.stem.toList,
        isAsciiLetter c = true ∨ ('0' ≤ c ∧ c ≤ '9') ∨ isWordSeparator c = true) ∧
      (∃ c, file.stem.toList.find? (fun c => !isWordSeparator c) = some c ∧
        isAsciiLetter c = true) ∧
      file.stem.toList.countP (fun c => !isWordSeparator c) ≤ 100) ∧
    typeNameFault? (derivedTypeName reserved) = some (.reserved "InSTANCEOf") ∧
    typeNameFault? (derivedTypeName free) = none := by
  intro reserved free
  have hreserved : reserved.stem = "in-STANCE_ of" := by decide +kernel
  have hfree : free.stem = "user-profiles" := by decide +kernel
  have hchars : ∀ file ∈ [reserved, free], ∀ c ∈ file.stem.toList,
      isAsciiLetter c = true ∨ ('0' ≤ c ∧ c ≤ '9') ∨ isWordSeparator c = true := by
    have hall : [reserved, free].all (fun file => file.stem.toList.all fun c =>
        isAsciiLetter c || ('0' ≤ c && c ≤ '9') || isWordSeparator c) = true := by decide +kernel
    intro file hfile c hc
    have hone := List.all_eq_true.mp (List.all_eq_true.mp hall file hfile) c hc
    simpa [or_assoc] using hone
  have hreservedFirst : ∃ c, reserved.stem.toList.find? (fun c => !isWordSeparator c) = some c ∧
      isAsciiLetter c = true := ⟨'i', by decide +kernel⟩
  have hfreeFirst : ∃ c, free.stem.toList.find? (fun c => !isWordSeparator c) = some c ∧
      isAsciiLetter c = true := ⟨'u', by decide +kernel⟩
  have hreservedShort :
      reserved.stem.toList.countP (fun c => !isWordSeparator c) ≤ 100 := by decide +kernel
  have hfreeShort : free.stem.toList.countP (fun c => !isWordSeparator c) ≤ 100 := by
    decide +kernel
  refine ⟨?_, ?_, ?_⟩
  · intro file hfile
    refine ⟨hchars file hfile, ?_⟩
    simp only [List.mem_cons, List.not_mem_nil, or_false] at hfile
    rcases hfile with rfl | rfl
    · exact ⟨hreservedFirst, hreservedShort⟩
    · exact ⟨hfreeFirst, hfreeShort⟩
  · have hspelled := derivedTypeName_accepted (hchars reserved List.mem_cons_self) hreservedFirst
      hreservedShort
    have hjoined : String.ofList ((words isWordSeparator reserved.stem.toList).flatten.flatMap
        lower) ∈ reservedWords := by decide +kernel
    have hname : derivedTypeName reserved = "InSTANCEOf" := by decide +kernel
    rw [hspelled, if_pos hjoined, hname]
  · have hspelled := derivedTypeName_accepted
      (hchars free (List.mem_cons_of_mem _ List.mem_cons_self)) hfreeFirst hfreeShort
    have hjoined : String.ofList ((words isWordSeparator free.stem.toList).flatten.flatMap
        lower) ∉ reservedWords := by decide +kernel
    rw [hspelled, if_neg hjoined]

end SampleSchema
