import SampleSchema.Proofs.Artifact.Hygiene

/-!
# Type names that a module can bind

A resolver module begins with an import that binds the type name, so the name has to be one that a
module can bind: an identifier, but neither one of the words that are reserved in modules
(`moduleReservedWords`) nor one of the two that strict code must not bind. An accepted type name is
an identifier of 1 to 100 ASCII characters. Of the reserved words three are accepted, those that
denote values, and so are the two restricted ones; every other accepted name can be bound
(`accepted_names_bindable`, `unbindable_names_accepted`).
-/

namespace SampleSchema

open Script

/-! ## 1. Names that can be bound -/

/-- The characters of identifiers. -/
def identifierCharacters : List Char :=
  "ABCDEFGHIJKLMNOPQRSTUVWXYZabcdefghijklmnopqrstuvwxyz0123456789_$".toList

/-- The characters that no identifier begins with. -/
def digitCharacters : List Char := "0123456789".toList

/-- **The words that are reserved in modules.** -/
def moduleReservedWords : List String := [
  "await", "break", "case", "catch", "class", "const", "continue", "debugger", "default", "delete",
  "do", "else", "enum", "export", "extends", "false", "finally", "for", "function", "if", "import",
  "in", "instanceof", "new", "null", "return", "super", "switch", "this", "throw", "true", "try",
  "typeof", "var", "void", "while", "with", "yield",
  -- these in strict code only, which all code of modules is
  "implements", "interface", "let", "package", "private", "protected", "public", "static"]

/-- The words that are not reserved, but that strict code must not bind. -/
def restrictedWords : List String := ["eval", "arguments"]

/-- The reserved words that denote values. -/
def literalWords : List String := ["null", "true", "false"]

/-- **A name of ASCII characters that a module can bind.** -/
structure IsBindable (name : String) : Prop where
  ne_nil : name.toList ≠ []
  characters : ∀ c ∈ name.toList, c ∈ identifierCharacters
  first : ∀ c, name.toList.head? = some c → c ∉ digitCharacters
  not_reserved : name ∉ moduleReservedWords
  not_restricted : name ∉ restrictedWords

/-! ## 2. Accepted names -/

theorem mem_identifierCharacters {c : Char} (h : isIdentifierPart c = true) :
    c ∈ identifierCharacters :=
  of_forall_identifierPart (p := fun c => c ∈ identifierCharacters) (by decide +kernel) h

theorem not_mem_digitCharacters {c : Char} (h : isIdentifierStart c = true) :
    c ∉ digitCharacters := by
  intro hdigit
  have hnone : digitCharacters.all (fun d => !isIdentifierStart d) = true := by decide
  have hother := List.all_eq_true.mp hnone c hdigit
  rw [h] at hother
  cases hother

/-- The refused words are in lower case. -/
theorem lower_reservedWords {word : String} (h : word ∈ reservedWords) :
    String.ofList (word.toList.flatMap lower) = word := by
  have hwords : ∀ word ∈ reservedWords,
      word.toList.all (fun c => isIdentifierPart c && c.toLower == c) = true := by decide +kernel
  have hlower : ∀ c ∈ word.toList, lower c = [c] := by
    intro c hc
    obtain ⟨hpart, hlow⟩ := Bool.and_eq_true_iff.mp (List.all_eq_true.mp (hwords word h) c hc)
    rw [lower_of_isIdentifierPart hpart, eq_of_beq hlow]
  rw [List.flatMap_def, List.map_congr_left hlower, ← List.flatMap_def]
  simp

/-- All words that are reserved in modules are refused, but for those that denote values. -/
theorem mem_reservedWords :
    ∀ word ∈ moduleReservedWords, word ∈ literalWords ∨ word ∈ reservedWords := by
  decide +kernel

section Accepted

variable {typeName : String} (h : typeNameFault? typeName = none)
include h

/-- **A refused word is not accepted**, as it is in lower case. -/
theorem not_mem_reservedWords : typeName ∉ reservedWords := by
  intro hmem
  have hfree := (typeNameFault?_eq_none_iff.mp h).2.2
  rw [lower_reservedWords hmem] at hfree
  exact hfree hmem

theorem mem_literalWords (hreserved : typeName ∈ moduleReservedWords) :
    typeName ∈ literalWords :=
  (mem_reservedWords typeName hreserved).resolve_right (not_mem_reservedWords h)

theorem head?_not_mem_digitCharacters {c : Char} (hc : typeName.toList.head? = some c) :
    c ∉ digitCharacters := by
  have hidentifier := isIdentifier_of_typeNameFault? h
  cases hcs : typeName.toList with
  | nil =>
    rw [hcs] at hc
    cases hc
  | cons d rest =>
    rw [hcs] at hc hidentifier
    cases hc
    exact not_mem_digitCharacters (Bool.and_eq_true_iff.mp hidentifier).1

/-- **An accepted name can be bound** unless it is one of five words. -/
theorem isBindable_iff : IsBindable typeName ↔ typeName ∉ literalWords ++ restrictedWords := by
  have hliteral : ∀ word ∈ literalWords, word ∈ moduleReservedWords := by decide
  rw [List.mem_append, not_or]
  constructor
  · intro hbindable
    exact ⟨fun hmem => hbindable.not_reserved (hliteral typeName hmem), hbindable.not_restricted⟩
  · rintro ⟨hvalue, hrestricted⟩
    obtain ⟨c, rest, hcs, _⟩ := exists_cons_of_typeNameFault? h
    exact ⟨by rw [hcs]; exact List.cons_ne_nil c rest,
      fun c hc => mem_identifierCharacters (isIdentifierPart_of_mem h hc),
      fun c hc => head?_not_mem_digitCharacters h hc,
      fun hmem => hvalue (mem_literalWords h hmem), hrestricted⟩

end Accepted

/-! ## 3. What is accepted -/

/-- **What a module can bind among the accepted names.** An accepted name is 1 to 100 ASCII letters,
    digits, underscores and dollar signs, and does not begin with a digit. It is no word that is
    reserved in modules, but for the three that denote values; so the import that the resolver
    module begins with binds it, unless it is one of them or one of the two words that strict code
    must not bind. -/
theorem accepted_names_bindable {typeName : String} (h : typeNameFault? typeName = none) :
    (1 ≤ typeName.length ∧ typeName.length ≤ 100) ∧
    (∀ c ∈ typeName.toList,
      c ∈ "ABCDEFGHIJKLMNOPQRSTUVWXYZabcdefghijklmnopqrstuvwxyz0123456789_$".toList) ∧
    (∀ c, typeName.toList.head? = some c → c ∉ "0123456789".toList) ∧
    (typeName ∈ moduleReservedWords → typeName ∈ ["null", "true", "false"]) ∧
    (IsBindable typeName ↔ typeName ∉ ["null", "true", "false", "eval", "arguments"]) ∧
    (tokens (resolverModule typeName)).take 5 =
      [.word "import", .word typeName, .word "from",
        .quoted ("../../models/" ++ typeName ++ ".js"), .mark ';'] := by
  obtain ⟨c, rest, hcs, _⟩ := exists_cons_of_typeNameFault? h
  have hlength : 1 ≤ typeName.length := by
    rw [← String.length_toList, hcs]
    exact Nat.succ_le_succ (Nat.zero_le _)
  refine ⟨⟨hlength, (typeNameFault?_eq_none_iff.mp h).1⟩,
    fun c hc => mem_identifierCharacters (isIdentifierPart_of_mem h hc),
    fun c hc => head?_not_mem_digitCharacters h hc, mem_literalWords h, isBindable_iff h, ?_⟩
  rw [tokens_resolverModule h]
  rfl

theorem accepted_names_bindable_order :
    typeNameFault? "Order" = none ∧ IsBindable "Order" ∧
    (tokens (resolverModule "Order")).take 5 =
      [.word "import", .word "Order", .word "from", .quoted "../../models/Order.js",
        .mark ';'] := by
  have hname : typeNameFault? "Order" = none := by decide
  obtain ⟨_, _, _, _, hbindable, himport⟩ := accepted_names_bindable hname
  exact ⟨hname, hbindable.mpr (by decide), himport⟩

/-- **Accepted names that no module can bind**: three reserved words and two restricted ones. -/
theorem unbindable_names_accepted :
    (∀ word ∈ ["null", "true", "false"],
      typeNameFault? word = none ∧ word ∈ moduleReservedWords ∧ ¬ IsBindable word) ∧
    ∀ word ∈ ["eval", "arguments"],
      typeNameFault? word = none ∧ word ∈ restrictedWords ∧ ¬ IsBindable word := by
  have hliteral : ∀ word ∈ ["null", "true", "false"],
      typeNameFault? word = none ∧ word ∈ moduleReservedWords := by decide +kernel
  have hrestricted : ∀ word ∈ ["eval", "arguments"],
      typeNameFault? word = none ∧ word ∈ restrictedWords := by decide +kernel
  refine ⟨fun word hword => ?_, fun word hword => ?_⟩
  · obtain ⟨haccepted, hmem⟩ := hliteral word hword
    exact ⟨haccepted, hmem, fun hbindable => hbindable.not_reserved hmem⟩
  · obtain ⟨haccepted, hmem⟩ := hrestricted word hword
    exact ⟨haccepted, hmem, fun hbindable => hbindable.not_restricted hmem⟩

end SampleSchema
