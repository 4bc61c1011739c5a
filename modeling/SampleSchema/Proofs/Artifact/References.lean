import SampleSchema.Artifact.ModelModule
import SampleSchema.FieldType.Inference
import SampleSchema.Proofs.Artifact.ReadBack
import SampleSchema.Proofs.Text.Words

/-!
# What a storage schema refers to

The type expression of an entry is code, and what it refers to has to exist where it runs: a global
constructor, or something of the one name that the model module imports. An expression refers to one
thing only, the `reference` of the type (`FieldType.references_storagePath`). A type that the schema
library holds is named by its path there, but inside an array it is spelled as it is: so the
references that exist nowhere are those of arrays at whose bottom a type of the library is
(`FieldType.isBound_reference_iff`), and they are a bare `Mixed` or `ObjectId`. Which entries these
are, for the type of any value, says `FieldModel.storage_reference`.
-/

namespace SampleSchema

/-! ## 1. References -/

/-- Can a reference hold this character? It is a name, or names with dots between them. -/
def isReferencePart (c : Char) : Bool := isIdentifierPart c || c == '.'

/-- What an expression refers to: its longest runs of such characters. -/
def references (expression : List Char) : List (List Char) :=
  words (fun c => !isReferencePart c) expression

/-- The constructors that every module knows and a storage schema can use. -/
def globalNames : List String := ["String", "Number", "Boolean", "Date"]

/-- What a module imports, from its first line. -/
def importedName? (moduleText : String) : Option (List Char) :=
  (textLines moduleText).head?.bind fun line => (words (· == ' ') line)[1]?

/-- The name of the schema library. -/
def libraryName : String := "mongoose"

/-- **A model module imports the schema library**, whatever it is made for. -/
theorem importedName?_modelModule (typeName storageSchema : String) :
    importedName? (modelModule typeName storageSchema) = some libraryName.toList := by
  have hfirst : textLines "import mongoose from 'mongoose';" =
      ["import mongoose from 'mongoose';".toList] := textLines_eq_singleton (by decide)
  unfold importedName? modelModule modelLines
  rw [textLines_endLines_cons, hfirst]
  rfl

/-- **Does a reference exist** in a model module? It is a global constructor, or begins at what the
    module imports. -/
def IsBound (reference : List Char) : Prop :=
  reference ∈ globalNames.map (·.toList) ∨ reference.takeWhile (· ≠ '.') = libraryName.toList

instance (reference : List Char) : Decidable (IsBound reference) :=
  inferInstanceAs (Decidable (_ ∨ _))

/-! ## 2. The reference of a type -/

namespace FieldType

/-- The type at the bottom of arrays in arrays. -/
def leaf : FieldType → FieldType
  | .array e => e.leaf
  | t => t

/-- What the entry of a field of a type refers to. -/
def reference : FieldType → String
  | .array e => e.leaf.storage
  | t => t.storagePath

theorem references_brackets (s : String) :
    references ("[" ++ s ++ "]").toList = references s.toList := by
  have htext : ("[" ++ s ++ "]").toList = [] ++ '[' :: (s.toList ++ ']' :: []) := by simp
  unfold references
  rw [htext, words_append_separator (by decide), words_append_separator (by decide)]
  exact List.append_nil _

/-- **A spelled type refers to what is at the bottom of its arrays.** -/
theorem references_storage (t : FieldType) :
    references t.storage.toList = [t.leaf.storage.toList] := by
  induction t with
  | scalar k => cases k <;> decide
  | array e ih => exact (references_brackets e.storage).trans ih
  | mixed => decide
  | unknown => decide

theorem references_storagePath (t : FieldType) :
    references t.storagePath.toList = [t.reference.toList] := by
  cases t with
  | scalar k => cases k <;> decide
  | array e => exact (references_brackets e.storage).trans (references_storage e)
  | mixed => decide
  | unknown => decide

theorem leaf_ne_array (t e : FieldType) : t.leaf ≠ .array e := by
  induction t with
  | array _ ih => exact ih
  | _ => exact nofun

/-- A type that the schema library holds. -/
def IsLibraryType (t : FieldType) : Prop := t = .mixed ∨ t = .unknown ∨ t = .scalar .objectId

instance (t : FieldType) : Decidable t.IsLibraryType := inferInstanceAs (Decidable (_ ∨ _ ∨ _))

/-- A spelled type that is no array exists unless it is a type of the library. -/
theorem isBound_storage_iff {t : FieldType} (ht : ∀ e, t ≠ .array e) :
    IsBound t.storage.toList ↔ ¬ t.IsLibraryType := by
  cases t with
  | scalar k => cases k <;> decide
  | array e => exact absurd rfl (ht e)
  | mixed => decide
  | unknown => decide

/-- **What a type refers to exists** unless it is an array with a type of the library at its
    bottom. -/
theorem isBound_reference_iff (t : FieldType) :
    IsBound t.reference.toList ↔ ¬ ∃ e, t = .array e ∧ e.leaf.IsLibraryType := by
  cases t with
  | array e =>
    have hleaf : IsBound (reference (.array e)).toList ↔ ¬ e.leaf.IsLibraryType :=
      isBound_storage_iff (leaf_ne_array e)
    simpa using hleaf
  | scalar k =>
    have hbound : IsBound (reference (.scalar k)).toList := by cases k <;> decide
    simpa using hbound
  | mixed =>
    have hbound : IsBound (reference .mixed).toList := by decide
    simpa using hbound
  | unknown =>
    have hbound : IsBound (reference .unknown).toList := by decide
    simpa using hbound

end FieldType

/-! ## 3. The references of a storage schema -/

/-- An entry stands on lines of its own, with a comma or the closing brace behind it. -/
theorem exists_around_entry {entries : List (List Char)} {entry : List Char}
    (h : entry ∈ entries) : ∃ before after,
      '\n' :: ([',', '\n'].intercalate entries ++ ['\n', '\x7d']) =
        before ++ '\n' :: (entry ++ after) ∧
      (after = ['\n', '\x7d'] ∨ ∃ more, after = ',' :: '\n' :: more) := by
  induction entries with
  | nil => cases h
  | cons first rest ih =>
    cases rest with
    | nil =>
      rw [List.mem_singleton.mp h]
      exact ⟨[], ['\n', '\x7d'], by simp, .inl rfl⟩
    | cons next more =>
      have hfirst : '\n' :: ([',', '\n'].intercalate (first :: next :: more) ++ ['\n', '\x7d']) =
          ('\n' :: (first ++ [','])) ++
            '\n' :: ([',', '\n'].intercalate (next :: more) ++ ['\n', '\x7d']) := by
        simp [List.intercalate_cons_cons]
      rw [hfirst]
      rcases List.mem_cons.mp h with rfl | h
      · refine ⟨[], ',' :: '\n' :: ([',', '\n'].intercalate (next :: more) ++ ['\n', '\x7d']), ?_,
          .inr ⟨_, rfl⟩⟩
        simp
      · obtain ⟨before, after, htext, hafter⟩ := ih h
        refine ⟨'\n' :: (first ++ [',']) ++ before, after, ?_, hafter⟩
        rw [htext, List.append_assoc]

/-- **What the entry of a field refers to**, for the type of any value and whether the field is
    required or not. The entry stands on lines of its own; and the type expression in what it says
    behind the key and a colon has one reference. It is a global constructor or begins at
    `mongoose`, which the module imports, unless the value is an array and its type has a type of
    the library at the bottom of its arrays; then it is that type's bare name. -/
theorem FieldModel.storage_reference {model : FieldModel} {key : String} {f : Field} {v : Json}
    (hf : (key, f) ∈ model.fields) (hv : f.type = .ofJson v) :
    (∀ typeName, importedName? (modelModule typeName (storageSchema model)) =
      some "mongoose".toList) ∧
    (∃ before after,
      (storageSchema model).toList = before ++ '\n' :: ((storageEntry key f).toList ++ after) ∧
      (after = ['\n', '\x7d'] ∨ ∃ more, after = ',' :: '\n' :: more)) ∧
    ∃ said expression reference,
      (storageEntry key f).toList = [' ', ' '] ++ (key.toList ++ ':' :: said) ∧
      (readOptions? said).bind (·.lookup "type".toList) = some expression ∧
      references expression = [reference] ∧
      (IsBound reference ↔ ¬ ∃ e, FieldType.ofJson v = .array e ∧
        (e.leaf = .mixed ∨ e.leaf = .unknown ∨ e.leaf = .scalar .objectId)) ∧
      (¬ IsBound reference → ∃ e, FieldType.ofJson v = .array e ∧
        reference = (if e.leaf = .scalar .objectId then "ObjectId" else "Mixed").toList) := by
  have hentry : (storageEntry key f).toList ∈ model.storageEntries :=
    List.mem_map.mpr ⟨(key, f), hf, rfl⟩
  obtain ⟨before, after, htext, hafter⟩ := exists_around_entry hentry
  have hbound := FieldType.isBound_reference_iff (.ofJson v)
  refine ⟨fun typeName => importedName?_modelModule typeName _,
    ⟨'\x7b' :: before, after, ?_, hafter⟩, f.entryText, f.type.storagePath.toList,
    (FieldType.ofJson v).reference.toList, toList_storageEntry key f, ?_, ?_, hbound,
    fun hunbound => ?_⟩
  · rw [toList_storageSchema, htext]
    rfl
  · have hoptions := f.readOptions?_entryText []
    rw [List.append_nil] at hoptions
    rw [hoptions]
    exact f.lookup_type_optionWords
  · rw [hv]
    exact FieldType.references_storagePath _
  · obtain ⟨e, harray, hleaf⟩ := Classical.not_not.mp (hunbound ∘ hbound.mpr)
    refine ⟨e, harray, ?_⟩
    rw [harray]
    show e.leaf.storage.toList = _
    rcases hleaf with hleaf | hleaf | hleaf <;> rw [hleaf] <;> rfl

/-- In the model of the orders, what a number refers to exists, and what an array of unknown
    elements refers to does not. -/
theorem FieldModel.storage_reference_orderModel :
    (∃ said expression reference,
      (readOptions? said).bind (·.lookup "type".toList) = some expression ∧
      references expression = [reference] ∧ IsBound reference) ∧
    ∃ said expression, (readOptions? said).bind (·.lookup "type".toList) = some expression ∧
      references expression = ["Mixed".toList] ∧ ¬ IsBound "Mixed".toList := by
  have htotal : ("total", (⟨"total", .ofJson (.int 3), true, [.int 3, .int 4]⟩ : Field)) ∈
      orderModel.fields := List.mem_cons_self
  have htags : ("tags", (⟨"tags", .ofJson (.arr []), false, [.arr []]⟩ : Field)) ∈
      orderModel.fields := List.mem_cons_of_mem _ List.mem_cons_self
  obtain ⟨_, _, said, expression, reference, _, hread, href, hbound, _⟩ :=
    FieldModel.storage_reference htotal rfl
  obtain ⟨_, _, said', expression', reference', _, hread', href', hbound', hbare⟩ :=
    FieldModel.storage_reference htags rfl
  have hunbound : ¬ IsBound reference' := fun h =>
    hbound'.mp h ⟨.unknown, rfl, .inr (.inl rfl)⟩
  obtain ⟨e, harray, hname⟩ := hbare hunbound
  cases harray
  rw [hname] at href' hunbound
  refine ⟨⟨said, expression, reference, hread, href, hbound.mpr ?_⟩, said', expression', hread',
    href', hunbound⟩
  rintro ⟨e, harray, _⟩
  cases harray

/-- **The type expression of an empty array refers to nothing that exists.** -/
theorem FieldModel.empty_array_refers_to_bare_name :
    readStorageFields? (storageSchema
        ⟨[("items", ⟨"items", .ofJson (.arr []), true, [.arr []]⟩)], 1⟩) =
      some [⟨"items", "[Mixed]", true⟩] ∧
    references "[Mixed]".toList = ["Mixed".toList] ∧ ¬ IsBound "Mixed".toList := by
  decide

end SampleSchema
