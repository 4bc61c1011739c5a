import SampleSchema.Path
import SampleSchema.Text.Blank
import SampleSchema.Text.Case
import SampleSchema.Text.Segments

/-!
# Names of types and values

A TYPE NAME names the entity whose documents were sampled; it is spliced into generated code, so it
has to be an identifier there. The names of single values and of lists of values derive from it. A
type name can itself be derived from a file name: the words of the name, each with its first
character in upper case, put together.
-/

namespace SampleSchema

/-! ## 1. Derived names -/

/-- The name of a single value: the type name with its first character in lower case. -/
def valueName (typeName : String) : String := String.ofList (lowerFirst typeName.toList)

/-- The name of several values. -/
def plural (name : String) : String := name ++ "s"

/-- The name of the list of all values. -/
def collectionName (typeName : String) : String := plural (valueName typeName)

/-- Does a character separate words? -/
def isWordSeparator (c : Char) : Bool := c == '-' || c == '_' || isBlank c

/-- **The words of a text put together**, each with its first character in upper case. -/
def pascalCase (text : String) : String :=
  String.ofList ((words isWordSeparator text.toList).flatMap upperFirst)

/-- The type name that a file name suggests. -/
def derivedTypeName (file : Path) : String := pascalCase file.stem

/-! ## 2. Accepted type names -/

/-- The greatest length of a type name. -/
def maxTypeNameLength : Nat := 100

/-- The words that cannot name anything in generated code, in lower case. -/
def reservedWords : List String := [
  "break", "case", "catch", "class", "const", "continue", "debugger", "default", "delete", "do",
  "else", "export", "extends", "finally", "for", "function", "if", "import", "in", "instanceof",
  "new", "return", "super", "switch", "this", "throw", "try", "typeof", "var", "void", "while",
  "with", "yield", "let", "static", "enum", "await", "implements", "interface", "package",
  "private", "protected", "public"]

/-- Is this an ASCII letter? -/
def isAsciiLetter (c : Char) : Bool := ('a' ≤ c && c ≤ 'z') || ('A' ≤ c && c ≤ 'Z')

/-- Can an identifier begin with this character? -/
def isIdentifierStart (c : Char) : Bool := isAsciiLetter c || c == '_' || c == '$'

/-- Can an identifier go on with this character? -/
def isIdentifierPart (c : Char) : Bool := isIdentifierStart c || ('0' ≤ c && c ≤ '9')

/-- Is a text an identifier? -/
def isIdentifier : List Char → Bool
  | [] => false
  | c :: rest => isIdentifierStart c && rest.all isIdentifierPart

/-- Why a text is no type name. -/
inductive TypeNameFault where
  | missing
  | tooLong
  | notAnIdentifier
  | reserved (name : String)
  deriving DecidableEq, Repr

/-- The text of a fault. -/
def TypeNameFault.message : TypeNameFault → String
  | .missing => "Model name is required"
  | .tooLong => s!"Model name must be {maxTypeNameLength} characters or less"
  | .notAnIdentifier =>
    "Model name must be a valid JavaScript identifier " ++
      "(letters, numbers, underscore, dollar sign)"
  | .reserved name => "\"" ++ name ++ "\" is a JavaScript reserved keyword and cannot be used"

/-- **What keeps a text from being a type name**, if anything does. The reserved words are refused
    in any mix of upper and lower case. -/
def typeNameFault? (name : String) : Option TypeNameFault :=
  if name.isEmpty then some .missing
  else if maxTypeNameLength < name.length then some .tooLong
  else if !isIdentifier name.toList then some .notAnIdentifier
  else if reservedWords.contains (String.ofList (name.toList.flatMap lower)) then
    some (.reserved name)
  else none

/-- An accepted name is an identifier. -/
theorem isIdentifier_of_typeNameFault? {typeName : String} (h : typeNameFault? typeName = none) :
    isIdentifier typeName.toList = true := by
  unfold typeNameFault? at h
  split at h
  · cases h
  · split at h
    · cases h
    · split at h
      · cases h
      · rename_i hid
        simpa using hid

/-- An accepted name is not empty and does not begin with a dot. -/
theorem exists_cons_of_typeNameFault? {typeName : String} (h : typeNameFault? typeName = none) :
    ∃ c rest, typeName.toList = c :: rest ∧ c ≠ '.' := by
  have hid := isIdentifier_of_typeNameFault? h
  cases hcs : typeName.toList with
  | nil =>
    rw [hcs] at hid
    cases hid
  | cons c rest =>
    rw [hcs] at hid
    refine ⟨c, rest, rfl, ?_⟩
    rintro rfl
    have hdot : isIdentifierStart '.' = false := by decide
    simp [isIdentifier, hdot] at hid

/-- An identifier is not empty, and holds nothing but characters of identifiers. -/
theorem parts_of_isIdentifier {cs : List Char} (h : isIdentifier cs = true) :
    cs ≠ [] ∧ ∀ c ∈ cs, isIdentifierPart c = true := by
  cases cs with
  | nil => cases h
  | cons d rest =>
    obtain ⟨hstart, hrest⟩ := Bool.and_eq_true_iff.mp h
    refine ⟨List.cons_ne_nil d rest, fun c hc => ?_⟩
    rcases List.mem_cons.mp hc with rfl | hc
    · exact Bool.or_eq_true_iff.mpr (Or.inl hstart)
    · exact List.all_eq_true.mp hrest c hc

/-- An accepted name holds nothing but characters of identifiers. -/
theorem isIdentifierPart_of_mem {typeName : String} (h : typeNameFault? typeName = none) {c : Char}
    (hc : c ∈ typeName.toList) : isIdentifierPart c = true :=
  (parts_of_isIdentifier (isIdentifier_of_typeNameFault? h)).2 c hc

end SampleSchema
