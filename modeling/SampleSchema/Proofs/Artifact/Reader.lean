import SampleSchema.Artifact.ApiSchema
import SampleSchema.Proofs.FieldType.Spelling
import SampleSchema.Proofs.Lists

/-!
# Reading the fields of the generated schemas

One reader for both schemas. A field of the API schema is a line `name: type`, with an exclamation
mark if it is required (`readApiField?_line`); an entry of the storage schema is a line `name:` with
options in braces, and a comma behind it if it is not the last (`readStorageField?_entry`). Names
here are API NAMES: letters, digits and underscores, and no digit first.
-/

namespace SampleSchema

/-! ## 1. Names -/

/-- Can an API name begin with this character? -/
def isApiNameStart (c : Char) : Bool := isAsciiLetter c || c == '_'

/-- Can an API name go on with this character? -/
def isApiNamePart (c : Char) : Bool := isApiNameStart c || ('0' ≤ c && c ≤ '9')

/-- Is a text an API name? -/
def isApiName : List Char → Bool
  | [] => false
  | c :: rest => isApiNameStart c && rest.all isApiNamePart

theorem isWordPart_of_isApiNamePart {c : Char} (h : isApiNamePart c = true) :
    isWordPart c = true := by
  unfold isApiNamePart isApiNameStart at h
  unfold isWordPart isIdentifierPart isIdentifierStart
  rw [Bool.or_eq_true, Bool.or_eq_true] at h
  rcases h with (h | h) | h <;> simp [h]

/-- API names are words. -/
theorem isWord_of_isApiName {cs : List Char} (h : isApiName cs = true) : IsWord cs := by
  cases cs with
  | nil => cases h
  | cons c rest =>
    refine isWord_cons (fun d hd => ?_) (fun d hd => isWordPart_of_isApiNamePart hd) h
    exact isWordPart_of_isApiNamePart (Bool.or_eq_true_iff.mpr (Or.inl hd))

/-- API names go on with characters of API names. -/
theorem isApiName_append {cs ds : List Char} (hc : isApiName cs = true)
    (hd : ds.all isApiNamePart = true) : isApiName (cs ++ ds) = true := by
  cases cs with
  | nil => cases hc
  | cons c rest =>
    obtain ⟨hstart, hrest⟩ := Bool.and_eq_true_iff.mp hc
    have hall : (rest ++ ds).all isApiNamePart = true := by
      rw [List.all_append, hrest, hd]
      rfl
    exact Bool.and_eq_true_iff.mpr ⟨hstart, hall⟩

/-- **API names are the identifiers without a dollar sign.** -/
theorem isApiName_iff {cs : List Char} :
    isApiName cs = true ↔ isIdentifier cs = true ∧ '$' ∉ cs := by
  have hstart : ∀ c, isApiNameStart c = true ↔ isIdentifierStart c = true ∧ c ≠ '$' := by
    intro c
    have hdollar : isApiNameStart '$' = false := by decide
    show _ ↔ (isApiNameStart c || c == '$') = true ∧ c ≠ '$'
    by_cases hc : c = '$' <;> simp [hc, hdollar]
  have hpart : ∀ c, isApiNamePart c = true ↔ isIdentifierPart c = true ∧ c ≠ '$' := by
    intro c
    have hdollar : isApiNamePart '$' = false := by decide
    by_cases hc : c = '$'
    · simp [hc, hdollar]
    · have hsame := hstart c
      simp only [isApiNamePart, isIdentifierPart, Bool.or_eq_true, hsame, hc, ne_eq,
        not_false_eq_true, and_true]
  cases cs with
  | nil => simp [isApiName, isIdentifier]
  | cons c rest =>
    simp only [isApiName, isIdentifier, Bool.and_eq_true, List.all_eq_true, hstart, hpart,
      List.mem_cons, not_or]
    constructor
    · rintro ⟨⟨hc, hne⟩, hrest⟩
      exact ⟨⟨hc, fun d hd => (hrest d hd).1⟩, Ne.symm hne, fun hd => (hrest _ hd).2 rfl⟩
    · rintro ⟨⟨hc, hrest⟩, hne, hnone⟩
      exact ⟨⟨hc, Ne.symm hne⟩, fun d hd => ⟨hrest d hd, fun heq => hnone (heq ▸ hd)⟩⟩

/-! ## 2. Fields of the API schema -/

/-- A field of a type, from its line. -/
def readApiField? (line : List Char) : Option ApiField :=
  (readPair? line).map fun (name, text) =>
    let marked := text.getLast? == some '!'
    ⟨String.ofList name, String.ofList (if marked then text.dropLast else text), marked⟩

/-- The fields of the first type among lines. -/
def readApiFields? (ls : List (List Char)) : Option (List ApiField) :=
  (blockLines ls).mapM readApiField?

/-- A field whose name and type are words. -/
def ApiField.IsPlain (f : ApiField) : Prop := IsWord f.name.toList ∧ IsWord f.type.toList

/-- The type of a field as its line has it, with the mark. -/
def ApiField.typeText (f : ApiField) : List Char :=
  f.type.toList ++ if f.required then ['!'] else []

theorem ApiField.toList_line (f : ApiField) :
    f.line.toList = [' ', ' '] ++ (pairText (f.name.toList, f.typeText) ++ []) := by
  unfold ApiField.line ApiField.typeText pairText
  cases f.required <;> simp

theorem ApiField.line_ne_brace (f : ApiField) : f.line.toList ≠ ['\x7d'] := by
  rw [f.toList_line]
  intro h
  cases h

theorem ApiField.newline_not_mem_line {f : ApiField} (hname : '\n' ∉ f.name.toList)
    (htype : IsWord f.type.toList) : '\n' ∉ f.line.toList := by
  have htext : '\n' ∉ f.type.toList := htype.not_mem rfl
  have hmark : '\n' ∉ f.typeText := by
    unfold ApiField.typeText
    split <;> simp [htext]
  rw [f.toList_line]
  simp [pairText, hname, hmark]

section Plain

variable {f : ApiField} (hf : f.IsPlain)
include hf

theorem ApiField.IsPlain.not_mem_typeText {c : Char} (hc : isWordPart c = false) (hmark : c ≠ '!') :
    c ∉ f.typeText := by
  unfold ApiField.typeText
  intro h
  rcases List.mem_append.mp h with h | h
  · exact hf.2.not_mem hc h
  · cases hr : f.required <;> simp [hr, hmark] at h

/-- **A field is read back from its line.** -/
theorem readApiField?_line : readApiField? f.line.toList = some f := by
  have hblank : ∀ c ∈ [' ', ' '], c = ' ' := by simp
  have hne : f.typeText ≠ [] := List.append_ne_nil_of_left_ne_nil hf.2.1 _
  have hpair : readPair? f.line.toList = some (f.name.toList, f.typeText) := by
    rw [f.toList_line]
    exact readPair?_eq hblank hf.1 hne (hf.not_mem_typeText rfl (by decide))
      fun c hc => (by cases hc)
  unfold readApiField?
  rw [hpair]
  show some (⟨String.ofList f.name.toList, _, _⟩ : ApiField) = some ⟨f.name, f.type, f.required⟩
  unfold ApiField.typeText
  cases f.required with
  | true => simp
  | false =>
    -- a word does not end in the mark
    have hlast : f.type.toList.getLast? ≠ some '!' := fun h =>
      hf.2.not_mem rfl (List.mem_of_getLast? h)
    simp [hlast]

end Plain

/-- The fields of the first two types of an API schema. -/
def readApiSchema? (text : String) : Option (List ApiField × List ApiField) := do
  let object ← readApiFields? (textLines text)
  let input ← readApiFields? (afterBlock (textLines text))
  pure (object, input)

theorem ApiField.lines_ne_brace (fields : List ApiField) :
    ∀ l ∈ fields.map (·.line), l.toList ≠ ['\x7d'] := by
  intro l hl
  obtain ⟨f, _, rfl⟩ := List.mem_map.mp hl
  exact f.line_ne_brace

section ApiType

variable (head : String) {fields : List ApiField} (h : ∀ f ∈ fields, f.IsPlain)
include h

/-- **The fields of a type are read back**, whatever follows it. -/
theorem readApiFields?_braced (rest : List (List Char)) :
    readApiFields? ((braced head (fields.map (·.line))).map (·.toList) ++ rest) = some fields := by
  have hread : fields.mapM (fun f => readApiField? f.line.toList) = some (fields.map id) :=
    mapM_eq_pure_map fun f hf => readApiField?_line (h f hf)
  unfold readApiFields?
  rw [blockLines_braced head (ApiField.lines_ne_brace fields), List.mapM_map, List.mapM_map]
  rw [List.map_id] at hread
  exact hread

/-- The lines of a type are the lines it was put together from. -/
theorem textLines_type (hhead : '\n' ∉ head.toList) :
    textLines (joinLines (braced head (fields.map (·.line)))) =
      (braced head (fields.map (·.line))).map (·.toList) := by
  refine textLines_braced hhead fun l hl => ?_
  obtain ⟨f, hf, rfl⟩ := List.mem_map.mp hl
  exact ApiField.newline_not_mem_line ((h f hf).1.not_mem rfl) (h f hf).2

end ApiType

/-! ## 3. Fields of the storage schema -/

/-- What an entry of the storage schema says about a field. -/
structure StorageField where
  name : String
  type : String
  required : Bool
  deriving DecidableEq, Repr

/-- The options in the first braces. -/
def readOptions? (cs : List Char) : Option (List (List Char × List Char)) := do
  let (_, inside) ← cut? '\x7b' cs
  let (listed, _) ← cut? '\x7d' inside
  readPairs? listed

/-- A field, from the line of its entry. -/
def readStorageField? (line : List Char) : Option StorageField := do
  let (name, said) ← readNamed? line
  let options ← readOptions? said
  let type ← options.lookup "type".toList
  pure ⟨String.ofList name, String.ofList type,
    options.contains ("required".toList, "true".toList)⟩

/-- The fields of a storage schema. Without any there is an empty line instead of the entries. -/
def readStorageFields? (text : String) : Option (List StorageField) :=
  ((blockLines (textLines text)).filter (· ≠ [])).mapM readStorageField?

/-- What the entry of a field is to say. -/
def Field.toStorage (key : String) (f : Field) : StorageField :=
  ⟨key, f.type.storagePath, f.required⟩

/-- The options of a field. An object id refers to a model that is not known. -/
def Field.options (f : Field) : List (String × String) :=
  ("type", f.type.storagePath) ::
    ((if f.type = .scalar .objectId then [("ref", "'TODO'")] else []) ++
      if f.required then [("required", "true")] else [])

/-- The options as they are read. -/
def Field.optionWords (f : Field) : List (List Char × List Char) :=
  f.options.map fun o => (o.1.toList, o.2.toList)

theorem FieldType.storageOption_eq (t : FieldType) :
    t.storageOption =
      "type: " ++ t.storagePath ++ if t = .scalar .objectId then ", ref: 'TODO'" else "" := by
  cases t with
  | scalar k => cases k <;> rfl
  | array e => exact (String.append_empty).symm
  | mixed => rfl
  | unknown => rfl

theorem Field.storageOptions_eq (f : Field) :
    f.storageOptions.toList = [',', ' '].intercalate (f.optionWords.map pairText) := by
  unfold Field.storageOptions Field.optionWords Field.options
  rw [FieldType.storageOption_eq]
  cases f.required <;> by_cases ht : f.type = .scalar .objectId <;>
    simp [ht, pairText, List.intercalate]

theorem Field.isWord_of_mem_optionWords {f : Field} {p : List Char × List Char}
    (h : p ∈ f.optionWords) : IsWord p.1 ∧ IsWord p.2 := by
  obtain ⟨o, ho, rfl⟩ := List.mem_map.mp h
  rcases List.mem_cons.mp ho with rfl | ho
  · have htype : IsWord "type".toList := by decide
    dsimp only
    exact ⟨htype, f.type.isWord_storagePath⟩
  · rcases List.mem_append.mp ho with ho | ho
    · split at ho
      · rw [List.mem_singleton.mp ho]
        decide
      · cases ho
    · split at ho
      · rw [List.mem_singleton.mp ho]
        decide
      · cases ho

theorem Field.lookup_type_optionWords (f : Field) :
    f.optionWords.lookup "type".toList = some f.type.storagePath.toList :=
  List.lookup_cons_self

/-- The options say that a field is required exactly if it is. -/
theorem Field.contains_required_optionWords (f : Field) :
    f.optionWords.contains ("required".toList, "true".toList) = f.required := by
  unfold Field.optionWords Field.options
  cases f.required <;> by_cases ht : f.type = .scalar .objectId <;> simp [ht]

/-- What the entry of a field says behind its colon. -/
def Field.entryText (f : Field) : List Char :=
  [' '] ++ '\x7b' ::
    ([' '] ++ ([',', ' '].intercalate (f.optionWords.map pairText) ++ [' '])) ++ ['\x7d']

theorem toList_storageEntry (key : String) (f : Field) :
    (storageEntry key f).toList = [' ', ' '] ++ (key.toList ++ ':' :: f.entryText) := by
  unfold storageEntry Field.entryText
  simp [Field.storageOptions_eq]

/-- **The options of a field are read back**, whatever follows its entry. -/
theorem Field.readOptions?_entryText (f : Field) (after : List Char) :
    readOptions? (f.entryText ++ after) = some f.optionWords := by
  have hbrace : '\x7d' ∉
      [' '] ++ ([',', ' '].intercalate (f.optionWords.map pairText) ++ [' ']) := by
    have hoptions : '\x7d' ∉ [',', ' '].intercalate (f.optionWords.map pairText) :=
      not_mem_listed (fun p hp => Field.isWord_of_mem_optionWords hp) rfl (by decide)
    simp [hoptions]
  have htext : f.entryText ++ after = [' '] ++ '\x7b' ::
      ([' '] ++ ([',', ' '].intercalate (f.optionWords.map pairText) ++ [' ']) ++
        '\x7d' :: after) := by
    simp [Field.entryText]
  unfold readOptions?
  rw [htext, cut?_append (by decide)]
  show (cut? '\x7d' (_ ++ '\x7d' :: after)).bind _ = _
  rw [cut?_append hbrace]
  exact readPairs?_listed (by simp [Field.optionWords, Field.options])
    fun p hp => Field.isWord_of_mem_optionWords hp

theorem Field.newline_not_mem_entryText (f : Field) : '\n' ∉ f.entryText := by
  have hoptions : '\n' ∉ [',', ' '].intercalate (f.optionWords.map pairText) :=
    not_mem_listed (fun p hp => Field.isWord_of_mem_optionWords hp) rfl (by decide)
  unfold Field.entryText
  simp [hoptions]

section Entry

variable {key : String} (hkey : IsWord key.toList) (f : Field)
include hkey

theorem newline_not_mem_storageEntry : '\n' ∉ (storageEntry key f).toList := by
  have hname : '\n' ∉ key.toList := hkey.not_mem rfl
  rw [toList_storageEntry]
  simp [hname, f.newline_not_mem_entryText]

/-- **A field is read back from its entry**, whatever follows it. -/
theorem readStorageField?_entry (after : List Char) :
    readStorageField? ((storageEntry key f).toList ++ after) = some (f.toStorage key) := by
  have htext : (storageEntry key f).toList ++ after =
      [' ', ' '] ++ (key.toList ++ ':' :: (f.entryText ++ after)) := by
    rw [toList_storageEntry]
    simp
  unfold readStorageField?
  rw [htext, readNamed?_eq (by simp) hkey]
  simp only [Option.bind_eq_bind, Option.bind_some, f.readOptions?_entryText,
    f.lookup_type_optionWords, f.contains_required_optionWords, String.ofList_toList]
  rfl

end Entry

/-- The entries of a storage schema, one after the other. -/
def FieldModel.storageEntries (model : FieldModel) : List (List Char) :=
  model.fields.map fun e => (storageEntry e.1 e.2).toList

theorem toList_storageSchema (model : FieldModel) :
    (storageSchema model).toList =
      '\x7b' :: '\n' :: ([',', '\n'].intercalate model.storageEntries ++ ['\n', '\x7d']) := by
  unfold storageSchema FieldModel.storageEntries
  simp [Function.comp_def]

/-- **The lines of a storage schema**, whatever the keys: a brace, those of the entries with their
    commas, a brace. -/
theorem textLines_storageSchema (model : FieldModel) :
    textLines (storageSchema model) =
      ['\x7b'] :: (itemLines model.storageEntries).flatMap (·.splitOn '\n') ++ [['\x7d']] := by
  have htext : (storageSchema model).toList = ['\x7b'] ++ '\n' ::
      ([',', '\n'].intercalate model.storageEntries ++ '\n' :: ['\x7d']) :=
    toList_storageSchema model
  unfold textLines
  rw [htext, List.splitOn_append_cons_self_of_not_mem (by decide), splitOn_items_flatMap]
  rfl

/-- Keys that are words have one line each, and no line but the last closes the literal. -/
theorem blockLines_storageSchema {model : FieldModel}
    (h : ∀ e ∈ model.fields, IsWord e.1.toList) :
    blockLines (textLines (storageSchema model)) = itemLines model.storageEntries := by
  have hitems : ∀ item ∈ model.storageEntries, '\n' ∉ item := by
    intro item hitem
    obtain ⟨e, he, rfl⟩ := List.mem_map.mp hitem
    exact newline_not_mem_storageEntry (h e he) e.2
  have hbrace : ∀ l ∈ itemLines model.storageEntries, decide (l ≠ ['\x7d']) = true := by
    intro l hl
    refine decide_eq_true ?_
    rcases eq_append_of_mem_itemLines hl with rfl | ⟨item, hitem, after, _, rfl⟩
    · decide
    · obtain ⟨e, _, rfl⟩ := List.mem_map.mp hitem
      rw [toList_storageEntry]
      intro hl
      cases hl
  unfold blockLines
  rw [textLines_storageSchema, flatMap_splitOn_itemLines hitems, List.cons_append, List.tail_cons,
    List.takeWhile_append_of_pos hbrace, List.takeWhile_cons_of_neg (by simp), List.append_nil]

/-- **The fields of a model are read back from its storage schema**, once each and in order. -/
theorem readStorageFields?_storageSchema {model : FieldModel}
    (h : ∀ e ∈ model.fields, IsWord e.1.toList) :
    readStorageFields? (storageSchema model) =
      some (model.fields.map fun e => e.2.toStorage e.1) := by
  unfold readStorageFields?
  rw [blockLines_storageSchema h]
  refine mapM_itemLines (fun e _ => ?_) fun e he after => readStorageField?_entry (h e he) e.2 after
  rw [toList_storageEntry]
  simp

end SampleSchema
