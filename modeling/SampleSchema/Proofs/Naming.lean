import Mathlib.Data.String.Basic
import Mathlib.Tactic.SplitIfs
import SampleSchema.Naming

/-!
# The name of a single value

An accepted type name is made of ASCII characters, and of these `lower` only moves the capital
letters (`lower_of_isIdentifierPart`). So the name of a single value differs from the type name in
at most its first character, and it is accepted as a type name in its turn
(`typeNameFault?_valueName`): the reserved words are refused in any mix of cases, so lowering the
first character makes none out of a name that is not one already.
-/

namespace SampleSchema

/-! ## 1. Characters of identifiers -/

/-- What is true of the first 128 characters, one by one, is true of every ASCII character. -/
theorem of_forall_ascii {p : Char → Prop} (h : ∀ n : Fin 128, p (Char.ofNat n)) {c : Char}
    (hc : c.toNat < 128) : p c := by
  have hp := h ⟨c.toNat, hc⟩
  rwa [Char.ofNat_toNat] at hp

theorem toNat_lt_of_le {c d : Char} (hd : d.toNat < 128) (h : c ≤ d) : c.toNat < 128 :=
  Nat.lt_of_le_of_lt (show c.toNat ≤ d.toNat from h) hd

theorem toNat_lt_of_isIdentifierPart {c : Char} (h : isIdentifierPart c = true) :
    c.toNat < 128 := by
  unfold isIdentifierPart isIdentifierStart isAsciiLetter at h
  simp only [Bool.or_eq_true, Bool.and_eq_true, decide_eq_true_eq, beq_iff_eq] at h
  rcases h with (((⟨-, h⟩ | ⟨-, h⟩) | rfl) | rfl) | ⟨-, h⟩
  · exact toNat_lt_of_le (d := 'z') (by decide) h
  · exact toNat_lt_of_le (d := 'Z') (by decide) h
  · decide
  · decide
  · exact toNat_lt_of_le (d := '9') (by decide) h

/-- What is true of the ASCII characters of identifiers, one by one, is true of all of them. -/
theorem of_forall_identifierPart {p : Char → Prop}
    (h : ∀ n : Fin 128, isIdentifierPart (Char.ofNat n) = true → p (Char.ofNat n)) {c : Char}
    (hc : isIdentifierPart c = true) : p c :=
  of_forall_ascii (p := fun c => isIdentifierPart c = true → p c) h
    (toNat_lt_of_isIdentifierPart hc) hc

/-- **Only capital letters are moved**, and each to one character. -/
theorem lower_of_isIdentifierPart {c : Char} (h : isIdentifierPart c = true) :
    lower c = [c.toLower] :=
  of_forall_identifierPart (p := fun c => lower c = [c.toLower]) (by decide +kernel) h

theorem isIdentifierPart_of_start {c : Char} (h : isIdentifierStart c = true) :
    isIdentifierPart c = true :=
  Bool.or_eq_true_iff.mpr (Or.inl h)

theorem isIdentifierStart_toLower {c : Char} (h : isIdentifierStart c = true) :
    isIdentifierStart c.toLower = true :=
  of_forall_identifierPart
    (p := fun c => isIdentifierStart c = true → isIdentifierStart c.toLower = true)
    (by decide +kernel) (isIdentifierPart_of_start h) h

theorem toLower_toLower {c : Char} (h : isIdentifierPart c = true) :
    c.toLower.toLower = c.toLower :=
  of_forall_identifierPart (p := fun c => c.toLower.toLower = c.toLower) (by decide +kernel) h

/-- What is in lower case stays as it is. -/
theorem lower_toLower {c : Char} (h : isIdentifierStart c = true) : lower c.toLower = lower c := by
  have hpart := isIdentifierPart_of_start h
  have hlow := isIdentifierPart_of_start (isIdentifierStart_toLower h)
  rw [lower_of_isIdentifierPart hlow, lower_of_isIdentifierPart hpart, toLower_toLower hpart]

/-! ## 2. Accepted names -/

/-- **What it takes to be accepted.** -/
theorem typeNameFault?_eq_none_iff {name : String} :
    typeNameFault? name = none ↔
      name.length ≤ maxTypeNameLength ∧ isIdentifier name.toList = true ∧
        String.ofList (name.toList.flatMap lower) ∉ reservedWords := by
  unfold typeNameFault?
  constructor
  · intro h
    split_ifs at h with hempty hlong hidentifier hreserved
    exact ⟨Nat.le_of_not_lt hlong, by simpa using hidentifier, by simpa using hreserved⟩
  · rintro ⟨hshort, hidentifier, hfree⟩
    have hempty : ¬ name.isEmpty = true := by
      intro h
      rw [String.isEmpty_iff.mp h] at hidentifier
      cases hidentifier
    rw [if_neg hempty, if_neg (Nat.not_lt.mpr hshort), if_neg (by simpa using hidentifier),
      if_neg (by simpa using hfree)]

section Accepted

variable {typeName : String} (h : typeNameFault? typeName = none)
include h

/-- An accepted name has one byte for each character. -/
theorem utf8ByteSize_le_of_accepted : typeName.utf8ByteSize ≤ maxTypeNameLength := by
  have hlen : ∀ cs : List Char, (∀ c ∈ cs, isIdentifierPart c = true) →
      String.utf8Len cs = cs.length := by
    intro cs hcs
    induction cs with
    | nil => rfl
    | cons c rest ih =>
      have hc : c.utf8Size = 1 := Char.utf8Size_eq_one_iff.mpr
        (Nat.le_of_lt_succ (toNat_lt_of_isIdentifierPart (hcs c List.mem_cons_self)))
      rw [String.utf8Len_cons, ih fun d hd => hcs d (List.mem_cons_of_mem _ hd), hc]
      rfl
  have hbytes : typeName.utf8ByteSize = typeName.toList.length := by
    rw [← hlen _ fun c hc => isIdentifierPart_of_mem h hc, ← String.utf8ByteSize_ofList,
      String.ofList_toList]
  rw [hbytes, String.length_toList]
  exact (typeNameFault?_eq_none_iff.mp h).1

/-- **The name of a single value** is the type name with its first character in lower case. -/
theorem exists_toList_valueName : ∃ c rest, typeName.toList = c :: rest ∧
    isIdentifierStart c = true ∧ (valueName typeName).toList = c.toLower :: rest := by
  have hidentifier := isIdentifier_of_typeNameFault? h
  cases hcs : typeName.toList with
  | nil =>
    rw [hcs] at hidentifier
    cases hidentifier
  | cons c rest =>
    rw [hcs] at hidentifier
    have hstart := (Bool.and_eq_true_iff.mp hidentifier).1
    refine ⟨c, rest, rfl, hstart, ?_⟩
    unfold valueName
    rw [String.toList_ofList, hcs, lowerFirst,
      lower_of_isIdentifierPart (isIdentifierPart_of_start hstart)]
    rfl

/-- **The name of a single value is accepted** as a type name. -/
theorem typeNameFault?_valueName : typeNameFault? (valueName typeName) = none := by
  obtain ⟨hshort, hidentifier, hfree⟩ := typeNameFault?_eq_none_iff.mp h
  obtain ⟨c, rest, hname, hstart, hvalue⟩ := exists_toList_valueName h
  have hlower : (valueName typeName).toList.flatMap lower = typeName.toList.flatMap lower := by
    rw [hvalue, hname, List.flatMap_cons, List.flatMap_cons,
      lower_toLower hstart]
  refine typeNameFault?_eq_none_iff.mpr ⟨?_, ?_, hlower ▸ hfree⟩
  · rw [← String.length_toList, hname] at hshort
    rw [← String.length_toList, hvalue]
    exact hshort
  · rw [hname] at hidentifier
    rw [hvalue]
    exact Bool.and_eq_true_iff.mpr
      ⟨isIdentifierStart_toLower hstart, (Bool.and_eq_true_iff.mp hidentifier).2⟩

end Accepted

/-! ## 3. Names made of a type name -/

/-- The names that the API gives to what it has of a type: its types, the operations that look up
    documents, and those that change them. -/
def apiNames (typeName : String) : List String :=
  [typeName, typeName ++ "Input", collectionName typeName, valueName typeName,
    "create" ++ typeName, "update" ++ typeName, "delete" ++ typeName]

/-- An identifier goes on with characters of identifiers. -/
theorem isIdentifier_append {cs ds : List Char} (hc : isIdentifier cs = true)
    (hd : ∀ d ∈ ds, isIdentifierPart d = true) : isIdentifier (cs ++ ds) = true := by
  cases cs with
  | nil => cases hc
  | cons c rest =>
    obtain ⟨hstart, hrest⟩ := Bool.and_eq_true_iff.mp hc
    have hall : (rest ++ ds).all isIdentifierPart = true := by
      rw [List.all_append, hrest, List.all_eq_true.mpr hd]
      rfl
    exact Bool.and_eq_true_iff.mpr ⟨hstart, hall⟩

/-- **A name made of a type name** is the type name or the name of a single value, with a verb in
    front of it or an ending behind it. -/
theorem exists_of_mem_apiNames {typeName name : String} (h : name ∈ apiNames typeName) :
    ∃ verb core ending, name = verb ++ core ++ ending ∧
      verb ∈ ["", "create", "update", "delete"] ∧ core ∈ [typeName, valueName typeName] ∧
        ending ∈ ["", "Input", "s"] := by
  have hself : typeName ∈ [typeName, valueName typeName] := List.mem_cons_self
  have hsingle : valueName typeName ∈ [typeName, valueName typeName] :=
    List.mem_cons_of_mem _ List.mem_cons_self
  simp only [apiNames, List.mem_cons, List.not_mem_nil, or_false] at h
  rcases h with rfl | rfl | rfl | rfl | rfl | rfl | rfl
  · exact ⟨"", _, "", by simp, by simp, hself, by simp⟩
  · exact ⟨"", _, "Input", by simp, by simp, hself, by simp⟩
  · exact ⟨"", _, "s", by simp [collectionName, plural], by simp, hsingle, by simp⟩
  · exact ⟨"", _, "", by simp, by simp, hsingle, by simp⟩
  · exact ⟨"create", _, "", by simp, by simp, hself, by simp⟩
  · exact ⟨"update", _, "", by simp, by simp, hself, by simp⟩
  · exact ⟨"delete", _, "", by simp, by simp, hself, by simp⟩

/-- **All names made of an accepted name are identifiers.** -/
theorem isIdentifier_of_mem_apiNames {typeName : String} (h : typeNameFault? typeName = none) :
    ∀ name ∈ apiNames typeName, isIdentifier name.toList = true := by
  have hverbs : ∀ verb ∈ ["", "create", "update", "delete"],
      verb = "" ∨ isIdentifier verb.toList = true := by decide
  have hendings : ∀ ending ∈ ["", "Input", "s"], ending.toList.all isIdentifierPart = true := by
    decide
  intro name hmem
  obtain ⟨verb, core, ending, rfl, hverb, hcore, hending⟩ := exists_of_mem_apiNames hmem
  have hidentifier : isIdentifier core.toList = true := by
    simp only [List.mem_cons, List.not_mem_nil, or_false] at hcore
    rcases hcore with rfl | rfl
    · exact isIdentifier_of_typeNameFault? h
    · exact isIdentifier_of_typeNameFault? (typeNameFault?_valueName h)
  have hfront : isIdentifier (verb ++ core).toList = true := by
    rw [String.toList_append]
    rcases hverbs verb hverb with rfl | hverb
    · exact hidentifier
    · exact isIdentifier_append hverb (parts_of_isIdentifier hidentifier).2
  rw [String.toList_append]
  exact isIdentifier_append hfront (List.all_eq_true.mp (hendings ending hending))

end SampleSchema
