import SampleSchema.Generation
import SampleSchema.Proofs.Artifact.Reader
import SampleSchema.Proofs.Scan.FieldWise

/-!
# The generated schemas read back to the model

A model that a scan gave is PROJECTABLE under a type name if the name is accepted and the keys are
API names other than the identity. Its API schema and its storage schema are then read back to its
fields (`readApiFields?_objectType`, `readApiFields?_inputType`, `readApiSchema?_apiSchema`, and
`readStorageFields?_storageSchema` for the storage side), although they are written from different
data: the one from the names of the fields, the other from the keys. The main statement,
`FieldModel.texts_read_back`, adds what follows: the marks and the counts agree, and models with the
same texts are alike in all that the texts say.
-/

namespace SampleSchema

/-! ## 1. Models that can be projected -/

/-- A model that some scan gives. -/
def FieldModel.IsAnalysed (model : FieldModel) : Prop :=
  ∃ (ε : Type) (settings : InferenceSettings) (merge : MergeStrategy (Except ε)) (v : Json),
    FieldModel.ofJson settings merge v = .ok (.ok model)

/-- **A model that can be projected under a type name.** -/
structure FieldModel.IsProjectable (typeName : String) (model : FieldModel) : Prop where
  analysed : model.IsAnalysed
  apiNames : ∀ key ∈ model.keys, isApiName key.toList = true
  noIdentity : identityName ∉ model.keys
  typeName : typeNameFault? typeName = none

theorem FieldModel.IsAnalysed.exists_describes {model : FieldModel} (h : model.IsAnalysed) :
    ∃ (ε : Type) (settings : InferenceSettings) (merge : MergeStrategy (Except ε))
      (samples : List Json), FieldModel.Describes settings merge samples model := by
  obtain ⟨ε, settings, merge, v, h⟩ := h
  unfold FieldModel.ofJson at h
  cases hv : v.examinable settings with
  | error fault => rw [hv] at h; cases h
  | ok samples =>
    rw [hv] at h
    exact ⟨ε, settings, merge, samples, FieldModel.describes_of_ok (Except.ok.inj h)⟩

theorem FieldModel.IsAnalysed.nodup_keys {model : FieldModel} (h : model.IsAnalysed) :
    model.keys.Nodup := by
  obtain ⟨_, _, _, _, hD⟩ := h.exists_describes
  exact hD.nodup_keys

/-- A scan names every field after its key. -/
theorem FieldModel.IsAnalysed.name_eq {model : FieldModel} (h : model.IsAnalysed)
    {e : String × Field} (he : e ∈ model.fields) : e.2.name = e.1 := by
  obtain ⟨_, _, _, _, hD⟩ := h.exists_describes
  exact hD.outlines.name_eq he

/-- An accepted type name is a word. -/
theorem isWord_of_typeNameFault? {typeName : String} (h : typeNameFault? typeName = none) :
    IsWord typeName.toList := by
  have hid := isIdentifier_of_typeNameFault? h
  have hpart : ∀ c, isIdentifierPart c = true → isWordPart c = true := by
    intro c hc
    simp [isWordPart, hc]
  cases hcs : typeName.toList with
  | nil => rw [hcs] at hid; cases hid
  | cons c rest =>
    rw [hcs] at hid
    exact isWord_cons (fun d hd => hpart d (Bool.or_eq_true_iff.mpr (Or.inl hd))) hpart hid

/-! ## 2. What the texts are to say -/

/-- The fields of a model that the input type shows, and the object type between the identity and
    the time stamps. -/
def FieldModel.shown (model : FieldModel) : List ApiField :=
  (model.fields.filter fun e => !timestampNames.contains e.1).map fun e =>
    ⟨e.1, e.2.type.api, e.2.required⟩

/-- The fields of a model, as the storage schema has them. -/
def FieldModel.stored (model : FieldModel) : List StorageField :=
  model.fields.map fun e => e.2.toStorage e.1

/-- The fields of a model but for some keys, as a type shows them. -/
def FieldModel.shownBut (model : FieldModel) (hidden : List String) : List ApiField :=
  (model.fields.filter fun e => !hidden.contains e.1).map fun e =>
    ⟨e.1, e.2.type.api, e.2.required⟩

/-- A type shows a field under its own name. Where that is the key, it hides the same fields. -/
theorem FieldModel.map_toApi_filter {model : FieldModel}
    (hname : ∀ e ∈ model.fields, e.2.name = e.1) (hidden : List String) :
    (model.values.filter fun f => !hidden.contains f.name).map (·.toApi) =
      model.shownBut hidden := by
  unfold FieldModel.shownBut FieldModel.values
  rw [List.filter_map, List.map_map]
  have hkept : (model.fields.filter fun e => !hidden.contains e.2.name) =
      model.fields.filter fun e => !hidden.contains e.1 := by
    refine List.filter_congr fun e he => ?_
    rw [hname e he]
  show (model.fields.filter fun e => !hidden.contains e.2.name).map (fun e => e.2.toApi) = _
  rw [hkept]
  refine List.map_congr_left fun e he => ?_
  unfold Field.toApi
  rw [hname e (List.mem_of_mem_filter he)]

section Projectable

variable {typeName : String} {model : FieldModel} (h : model.IsProjectable typeName)
include h

/-- The object type shows all fields but the time stamps. -/
theorem FieldModel.IsProjectable.objectFields_eq : model.objectFields = model.shown :=
  FieldModel.map_toApi_filter (fun _ he => h.analysed.name_eq he) timestampNames

/-- The input type leaves out the identity, which is no key here. -/
theorem FieldModel.IsProjectable.inputFields_eq : model.inputFields = model.shown := by
  have hinput : model.inputFields = model.shownBut (identityName :: timestampNames) :=
    FieldModel.map_toApi_filter (fun _ he => h.analysed.name_eq he) _
  rw [hinput]
  unfold FieldModel.shownBut FieldModel.shown
  congr 1
  refine List.filter_congr fun e he => ?_
  have hne : e.1 ≠ identityName := by
    intro hid
    exact h.noIdentity (hid ▸ List.mem_map_of_mem he)
  simp [hne]

theorem FieldModel.IsProjectable.isWord_key {e : String × Field} (he : e ∈ model.fields) :
    IsWord e.1.toList :=
  isWord_of_isApiName (h.apiNames e.1 (List.mem_map_of_mem he))

theorem FieldModel.IsProjectable.isPlain_shown {f : ApiField} (hf : f ∈ model.shown) :
    f.IsPlain := by
  obtain ⟨e, he, rfl⟩ := List.mem_map.mp hf
  exact ⟨h.isWord_key (List.mem_of_mem_filter he), e.2.type.isWord_api⟩

theorem FieldModel.IsProjectable.isPlain_object {f : ApiField}
    (hf : f ∈ identityField :: model.shown ++ timestampFields) : f.IsPlain := by
  rcases List.mem_append.mp hf with hf | hf
  · rcases List.mem_cons.mp hf with rfl | hf
    · exact ⟨by decide, by decide⟩
    · exact h.isPlain_shown hf
  · obtain ⟨name, hname, rfl⟩ := List.mem_map.mp hf
    have htimestamp : ∀ name ∈ timestampNames, IsWord name.toList := by decide
    have hdate : IsWord "Date".toList := by decide
    exact ⟨htimestamp name hname, hdate⟩

/-! ## 3. Reading the texts -/

theorem FieldModel.IsProjectable.textLines_objectType :
    textLines (objectType typeName model) =
      (objectTypeLines typeName model.shown).map (·.toList) := by
  have hname : '\n' ∉ typeName.toList := (isWord_of_typeNameFault? h.typeName).not_mem rfl
  unfold objectType
  rw [h.objectFields_eq]
  exact textLines_type _ (fun f hf => h.isPlain_object hf) (by simp [hname])

theorem FieldModel.IsProjectable.textLines_inputType :
    textLines (inputType typeName model) =
      (inputTypeLines typeName model.shown).map (·.toList) := by
  have hname : '\n' ∉ typeName.toList := (isWord_of_typeNameFault? h.typeName).not_mem rfl
  unfold inputType
  rw [h.inputFields_eq]
  exact textLines_type _ (fun f hf => h.isPlain_shown hf) (by simp [hname])

omit h in
/-- The API schema begins with the object type and the input type, an empty line behind each. -/
theorem textLines_apiSchema (typeName : String) (model : FieldModel) :
    textLines (apiSchema typeName model) =
      textLines (objectType typeName model) ++ [] :: (textLines (inputType typeName model) ++
        [] :: textLines (endLines (operationLines typeName))) := by
  have htext : apiSchema typeName model =
      objectType typeName model ++ ("\n" ++ ("" ++ ("\n" ++ (inputType typeName model ++
        ("\n" ++ ("" ++ ("\n" ++ endLines (operationLines typeName)))))))) := by
    refine String.toList_inj.mp ?_
    unfold apiSchema
    simp
  have hempty : textLines "" = [[]] := rfl
  rw [htext, textLines_append, textLines_append, textLines_append, textLines_append, hempty,
    List.singleton_append, List.singleton_append]

/-- **The object type is read back**: the identity, the fields of the model, the time stamps. -/
theorem FieldModel.IsProjectable.readApiFields?_objectType :
    readApiFields? (textLines (objectType typeName model)) =
      some (identityField :: model.shown ++ timestampFields) := by
  have hread := readApiFields?_braced ("type " ++ typeName) (fun f hf => h.isPlain_object hf) []
  rw [List.append_nil] at hread
  rw [h.textLines_objectType]
  exact hread

/-- **The input type is read back**: the fields of the model alone. -/
theorem FieldModel.IsProjectable.readApiFields?_inputType :
    readApiFields? (textLines (inputType typeName model)) = some model.shown := by
  have hread := readApiFields?_braced ("input " ++ typeName ++ "Input")
    (fun f hf => h.isPlain_shown hf) []
  rw [List.append_nil] at hread
  rw [h.textLines_inputType]
  exact hread

/-- **Both types are read back from the API schema.** -/
theorem FieldModel.IsProjectable.readApiSchema?_apiSchema :
    readApiSchema? (apiSchema typeName model) =
      some (identityField :: model.shown ++ timestampFields, model.shown) := by
  have hobject := readApiFields?_braced ("type " ++ typeName) fun f hf => h.isPlain_object hf
  have hinput := readApiFields?_braced ("input " ++ typeName ++ "Input")
    fun f hf => h.isPlain_shown hf
  have hafter := afterBlock_braced ("type " ++ typeName) (ApiField.lines_ne_brace
    (identityField :: model.shown ++ timestampFields))
  unfold readApiSchema?
  rw [textLines_apiSchema, h.textLines_objectType, h.textLines_inputType]
  unfold objectTypeLines inputTypeLines
  rw [hobject, hafter, hinput]
  rfl

/-- The fields of the storage schema are read back. -/
theorem FieldModel.IsProjectable.readStorageFields?_eq :
    readStorageFields? (storageSchema model) = some model.stored :=
  readStorageFields?_storageSchema fun _ he => h.isWord_key he

/-! ## 4. Models with the same texts -/

omit h in
theorem FieldModel.map_name_stored (model : FieldModel) :
    model.stored.map (·.name) = model.keys := by
  unfold FieldModel.stored FieldModel.keys Entries.keys
  rw [List.map_map]
  rfl

omit h in
theorem FieldModel.map_required_stored (model : FieldModel) :
    model.stored.map (·.required) = model.values.map (·.required) := by
  unfold FieldModel.stored FieldModel.values
  rw [List.map_map, List.map_map]
  rfl

/-- A field of a model is among what its texts say. -/
theorem FieldModel.IsProjectable.mem_fields_iff {key : String} {f : Field} :
    model.get? key = some f ↔ (key, f) ∈ model.fields :=
  Entries.get?_eq_some_iff h.analysed.nodup_keys key f

theorem FieldModel.IsProjectable.storagePath_eq {s : StorageField} (hs : s ∈ model.stored)
    {f : Field} (hf : model.get? s.name = some f) : f.type.storagePath = s.type := by
  obtain ⟨e, he, rfl⟩ := List.mem_map.mp hs
  have hget : model.get? e.1 = some e.2 := h.mem_fields_iff.mpr he
  cases hget.symm.trans hf
  rfl

theorem FieldModel.IsProjectable.api_eq {a : ApiField} (ha : a ∈ model.shown) {f : Field}
    (hf : model.get? a.name = some f) : f.type.api = a.type := by
  obtain ⟨e, he, rfl⟩ := List.mem_map.mp ha
  have hget : model.get? e.1 = some e.2 := h.mem_fields_iff.mpr (List.mem_of_mem_filter he)
  cases hget.symm.trans hf
  rfl

/-- **Models of which the texts say the same are alike**: in keys, order and marks, and in every
    type that both schemas show. -/
theorem FieldModel.IsProjectable.alike_of_eq {typeName' : String} {model' : FieldModel}
    (h' : model'.IsProjectable typeName') (hstored : model.stored = model'.stored)
    (hshown : model.shown = model'.shown) :
    model.keys = model'.keys ∧ model.values.map (·.required) = model'.values.map (·.required) ∧
      ∀ key f f', model.get? key = some f → model'.get? key = some f' → key ∉ timestampNames →
        f.type = f'.type := by
  refine ⟨?_, ?_, fun key f f' hf hf' hkey => ?_⟩
  · rw [← model.map_name_stored, ← model'.map_name_stored, hstored]
  · rw [← model.map_required_stored, ← model'.map_required_stored, hstored]
  · have hmem := h.mem_fields_iff.mp hf
    have hs : f.toStorage key ∈ model'.stored := by
      rw [← hstored]
      exact List.mem_map.mpr ⟨(key, f), hmem, rfl⟩
    have ha : (⟨key, f.type.api, f.required⟩ : ApiField) ∈ model'.shown := by
      rw [← hshown]
      refine List.mem_map.mpr ⟨(key, f), List.mem_filter.mpr ⟨hmem, ?_⟩, rfl⟩
      simpa using hkey
    exact FieldType.eq_of_path (h'.storagePath_eq hs hf').symm (h'.api_eq ha hf').symm

end Projectable

/-! ## 5. The texts and the model -/

/-- **The generated texts read back to the model.** The object type has the identity, the fields
    of the model other than the time stamps in the order of the model, and the time stamps; the
    input type has these fields alone, and the storage schema all fields. So a field shown in all
    three has one mark, the counts are those of the storage schema, and a model is known by its
    storage schema and any one of its API texts but for the types of the time stamps. -/
theorem FieldModel.texts_read_back {typeName : String} {model : FieldModel}
    (h : model.IsProjectable typeName) :
    let g := Generation.ofModel typeName model
    let shown := (model.fields.filter fun e => !(["createdAt", "updatedAt"].contains e.1)).map
      fun e => (⟨e.1, e.2.type.api, e.2.required⟩ : ApiField)
    let object := ⟨"_id", "ID", true⟩ :: shown ++
      [⟨"createdAt", "Date", false⟩, ⟨"updatedAt", "Date", false⟩]
    let stored := model.fields.map fun e =>
      (⟨e.1, e.2.type.storagePath, e.2.required⟩ : StorageField)
    model.keys.Nodup ∧
    readApiFields? (textLines (objectType typeName model)) = some object ∧
    readApiFields? (textLines (inputType typeName model)) = some shown ∧
    readApiSchema? g.api = some (object, shown) ∧
    readStorageFields? g.storage = some stored ∧
    (shown.map fun f => (f.name, f.required)) =
      (stored.filter fun s => !(["createdAt", "updatedAt"].contains s.name)).map
        (fun s => (s.name, s.required)) ∧
    stored.length = g.counts.total ∧
    (stored.filter (·.required)).length = g.counts.required ∧
    ∀ typeName' model', FieldModel.IsProjectable typeName' model' →
      storageSchema model = storageSchema model' →
      (objectType typeName model = objectType typeName' model' ∨
        inputType typeName model = inputType typeName' model' ∨
        apiSchema typeName model = apiSchema typeName' model') →
      model.keys = model'.keys ∧ model.values.map (·.required) = model'.values.map (·.required) ∧
      ∀ key f f', model.get? key = some f → model'.get? key = some f' →
        key ∉ ["createdAt", "updatedAt"] → f.type = f'.type := by
  intro g shown object stored
  refine ⟨h.analysed.nodup_keys, h.readApiFields?_objectType, h.readApiFields?_inputType,
    h.readApiSchema?_apiSchema, h.readStorageFields?_eq, ?_, ?_, ?_, ?_⟩
  · show ((model.fields.filter _).map _).map _ = ((model.fields.map _).filter _).map _
    rw [List.map_map, List.filter_map, List.map_map]
    rfl
  · exact List.length_map _
  · show ((model.fields.map _).filter _).length = ((model.fields.map (·.2)).filter _).length
    rw [List.filter_map, List.filter_map, List.length_map, List.length_map]
    rfl
  · intro typeName' model' h' hstorage htext
    have hstored : model.stored = model'.stored := by
      have hread := h.readStorageFields?_eq
      rw [hstorage, h'.readStorageFields?_eq] at hread
      exact (Option.some.inj hread).symm
    have hshown : model.shown = model'.shown := by
      rcases htext with htext | htext | htext
      · have hread := h.readApiFields?_objectType
        rw [htext, h'.readApiFields?_objectType] at hread
        have hlist := Option.some.inj hread
        exact (List.append_cancel_right (List.cons.inj hlist).2).symm
      · have hread := h.readApiFields?_inputType
        rw [htext, h'.readApiFields?_inputType] at hread
        exact (Option.some.inj hread).symm
      · have hread := h.readApiSchema?_apiSchema
        rw [htext, h'.readApiSchema?_apiSchema] at hread
        exact (Prod.mk.inj (Option.some.inj hread)).2.symm
    exact h.alike_of_eq h' hstored hshown

/-- Two orders, of which the second has one field only. -/
def orderSamples : List Json :=
  [.obj [("_id", .int 1), ("total", .int 3), ("tags", .arr []), ("createdAt", .str "2024-01-15")],
    .obj [("total", .int 4)]]

/-- The model of the orders. -/
def orderModel : FieldModel where
  fields :=
    [("total", ⟨"total", .scalar .int, true, [.int 3, .int 4]⟩),
      ("tags", ⟨"tags", .array .unknown, false, [.arr []]⟩),
      ("createdAt", ⟨"createdAt", .scalar .date, false, [.str "2024-01-15"]⟩)]
  examined := 2

theorem ofJson_orderSamples :
    FieldModel.ofJson .standard reject (.arr orderSamples) = .ok (.ok orderModel) := by
  have hscan : Scan.run .standard reject orderSamples =
      .ok ⟨[("total", ⟨.scalar .int, 2, [.int 3, .int 4]⟩),
        ("tags", ⟨.array .unknown, 1, [.arr []]⟩),
        ("createdAt", ⟨.scalar .date, 1, [.str "2024-01-15"]⟩)], 2⟩ := by rfl
  have hboth : Scan.isRequired .standard 2 2 = true := by decide +kernel
  have hone : Scan.isRequired .standard 2 1 = false := by decide +kernel
  rw [FieldModel.ofJson_eq_ofSamples reject (Or.inl rfl) (by decide)]
  show Except.ok (FieldModel.ofSamples .standard reject orderSamples) = _
  unfold FieldModel.ofSamples
  rw [hscan]
  show Except.ok (Except.ok (Scan.model .standard _)) = Except.ok (Except.ok orderModel)
  simp only [Scan.model, Scan.fieldOf, List.map_cons, List.map_nil, hboth, hone]
  rfl

theorem orderModel_isAnalysed : orderModel.IsAnalysed :=
  ⟨TypeConflict, .standard, reject, .arr orderSamples, ofJson_orderSamples⟩

theorem FieldModel.texts_read_back_orderModel :
    orderModel.IsProjectable "Order" ∧
    readApiSchema? (apiSchema "Order" orderModel) =
      some ([⟨"_id", "ID", true⟩, ⟨"total", "Int", true⟩, ⟨"tags", "[String]", false⟩,
          ⟨"createdAt", "Date", false⟩, ⟨"updatedAt", "Date", false⟩],
        [⟨"total", "Int", true⟩, ⟨"tags", "[String]", false⟩]) ∧
    readStorageFields? (storageSchema orderModel) =
      some [⟨"total", "Number", true⟩, ⟨"tags", "[Mixed]", false⟩,
        ⟨"createdAt", "Date", false⟩] := by
  have hprojectable : orderModel.IsProjectable "Order" :=
    ⟨orderModel_isAnalysed, by decide, by decide, by decide⟩
  obtain ⟨_, _, _, hapi, hstorage, _⟩ := FieldModel.texts_read_back hprojectable
  exact ⟨hprojectable, hapi, hstorage⟩

end SampleSchema
