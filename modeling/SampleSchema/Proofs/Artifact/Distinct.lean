import SampleSchema.Proofs.Artifact.ReadBack
import SampleSchema.Proofs.Scan.Outline

/-!
# Fields that an object type declares twice

An object type has an identity and two time stamps of its own, besides the fields of the model. The
fields under the names of the time stamps are left out, a field under the name of the identity is
not. So the names of its lines are distinct but for one: the identity is declared a second time
exactly if the model has a field of that name, which is to say that `_id` is not reserved and a
document has it (`FieldModel.declared_once_but_identity`, `FieldModel.identity_declared_twice`).

A key may be any text, and its line is then as many lines as the key has. The names are those of the
lines whose name is an API name; such a line is one line, and the field is read back from it.
-/

namespace SampleSchema

/-! ## 1. Names -/

/-- The names that an object type declares for given keys. -/
def declaredNames (keys : List String) : List String :=
  identityName :: keys.filter (fun key => !timestampNames.contains key) ++ timestampNames

theorem mem_declaredNames {keys : List String} {name : String} :
    name ∈ declaredNames keys ↔ name ∈ identityName :: timestampNames ∨ name ∈ keys := by
  unfold declaredNames
  by_cases hstamp : name ∈ timestampNames <;> simp [hstamp]

/-- **How often a name is declared**: once if it is one of the fixed ones, and once more if it is a
    key that is not left out. -/
theorem count_declaredNames {keys : List String} (hkeys : keys.Nodup) (name : String) :
    (declaredNames keys).count name =
      (if name ∈ identityName :: timestampNames then 1 else 0) +
        if name ∈ keys ∧ name ∉ timestampNames then 1 else 0 := by
  have hfixed : (identityName :: timestampNames).Nodup := by decide
  have hkept : (keys.filter fun key => !timestampNames.contains key).count name =
      if name ∈ keys ∧ name ∉ timestampNames then 1 else 0 := by
    have hnodup : (keys.filter fun key => !timestampNames.contains key).Nodup :=
      List.filter_sublist.nodup hkeys
    rw [hnodup.count]
    simp
  rw [← hfixed.count, ← hkept]
  unfold declaredNames
  rw [List.count_append, List.count_cons, List.count_cons]
  omega

/-- The names among them that are API names. -/
def declaredApiNames (keys : List String) : List String :=
  (declaredNames keys).filter fun name => isApiName name.toList

theorem isApiName_of_fixed :
    ∀ name ∈ identityName :: timestampNames, isApiName name.toList = true := by decide

theorem mem_declaredApiNames {keys : List String} {name : String} :
    name ∈ declaredApiNames keys ↔ name ∈ identityName :: timestampNames ∨
      name ∈ keys ∧ isApiName name.toList = true := by
  unfold declaredApiNames
  rw [List.mem_filter, mem_declaredNames, or_and_right]
  exact or_congr (and_iff_left_of_imp (isApiName_of_fixed name)) Iff.rfl

section Nodup

variable {keys : List String} (hkeys : keys.Nodup)
include hkeys

/-- Every name but the identity is declared at most once: one that is fixed is left out as a key. -/
theorem count_declaredApiNames_le {name : String} (hname : name ≠ identityName) :
    (declaredApiNames keys).count name ≤ 1 := by
  refine Nat.le_trans (List.filter_sublist.count_le name) ?_
  rw [count_declaredNames hkeys]
  by_cases hstamp : name ∈ timestampNames
  · simp [hstamp]
  · rw [if_neg (by simp [hname, hstamp])]
    split <;> omega

/-- The identity is fixed, and not left out as a key. -/
theorem count_identity_declaredApiNames :
    (declaredApiNames keys).count identityName = if identityName ∈ keys then 2 else 1 := by
  have hstamp : identityName ∉ timestampNames := by decide
  unfold declaredApiNames
  rw [List.count_filter (by decide), count_declaredNames hkeys]
  by_cases hkey : identityName ∈ keys <;> simp [hkey, hstamp]

/-- **The names are distinct exactly if the identity is no key.** -/
theorem nodup_declaredApiNames_iff : (declaredApiNames keys).Nodup ↔ identityName ∉ keys := by
  have hidentity := count_identity_declaredApiNames hkeys
  rw [List.nodup_iff_count]
  constructor
  · intro hle hkey
    have htwo := hle identityName
    rw [hidentity, if_pos hkey] at htwo
    omega
  · intro hkey name
    by_cases hname : name = identityName
    · rw [hname, hidentity, if_neg hkey]
    · exact count_declaredApiNames_le hkeys hname

end Nodup

/-! ## 2. Lines -/

/-- The fields that the object type of a model declares. -/
def FieldModel.typeFields (model : FieldModel) : List ApiField :=
  identityField :: model.objectFields ++ timestampFields

theorem FieldModel.map_name_shownBut (model : FieldModel) (hidden : List String) :
    (model.shownBut hidden).map (·.name) = model.keys.filter fun key => !hidden.contains key := by
  unfold FieldModel.shownBut FieldModel.keys Entries.keys
  rw [List.map_map, List.filter_map]
  rfl

theorem FieldModel.map_name_typeFields {model : FieldModel}
    (hname : ∀ e ∈ model.fields, e.2.name = e.1) :
    model.typeFields.map (·.name) = declaredNames model.keys := by
  have hobject : model.objectFields = model.shownBut timestampNames :=
    FieldModel.map_toApi_filter hname timestampNames
  unfold FieldModel.typeFields
  rw [hobject, List.map_append, List.map_cons, FieldModel.map_name_shownBut]
  rfl

theorem FieldModel.isWord_type {model : FieldModel} {f : ApiField} (hf : f ∈ model.typeFields) :
    IsWord f.type.toList := by
  have hfixed : ∀ f ∈ identityField :: timestampFields, IsWord f.type.toList := by decide
  rcases List.mem_append.mp hf with hf | hf
  · rcases List.mem_cons.mp hf with rfl | hf
    · exact hfixed _ List.mem_cons_self
    · obtain ⟨e, _, rfl⟩ := List.mem_map.mp hf
      exact e.type.isWord_api
  · exact hfixed f (List.mem_cons_of_mem _ hf)

/-- Where all keys are API names, so are the names of the fields. -/
theorem FieldModel.isApiName_of_mem_values {model : FieldModel}
    (hname : ∀ e ∈ model.fields, e.2.name = e.1)
    (hkeys : ∀ key ∈ model.keys, isApiName key.toList = true) :
    ∀ f ∈ model.values, isApiName f.name.toList = true := by
  intro f hf
  obtain ⟨e, he, rfl⟩ := List.mem_map.mp hf
  rw [hname e he]
  exact hkeys e.1 (List.mem_map_of_mem he)

/-- Where all keys are API names, an object type declares no other names. -/
theorem FieldModel.isApiName_of_mem_typeFields {model : FieldModel}
    (hname : ∀ e ∈ model.fields, e.2.name = e.1)
    (hkeys : ∀ key ∈ model.keys, isApiName key.toList = true) {f : ApiField}
    (hf : f ∈ model.typeFields) : isApiName f.name.toList = true := by
  have hdeclared : f.name ∈ declaredNames model.keys := by
    rw [← FieldModel.map_name_typeFields hname]
    exact List.mem_map_of_mem hf
  rcases mem_declaredNames.mp hdeclared with hf | hf
  · exact isApiName_of_fixed _ hf
  · exact hkeys _ hf

/-- **The fields of an object type are read back** if their names are API names. -/
theorem readApiFields?_objectType {model : FieldModel} {typeName : String}
    (htype : '\n' ∉ typeName.toList)
    (h : ∀ f ∈ model.typeFields, isApiName f.name.toList = true) :
    readApiFields? (textLines (objectType typeName model)) = some model.typeFields := by
  have hplain : ∀ f ∈ model.typeFields, f.IsPlain := fun f hf =>
    ⟨isWord_of_isApiName (h f hf), FieldModel.isWord_type hf⟩
  have hread := readApiFields?_braced ("type " ++ typeName) hplain []
  rw [List.append_nil, ← textLines_type _ hplain (by simp [htype])] at hread
  exact hread

/-- The lines of an object type, whatever the names. -/
theorem textLines_objectType (typeName : String) (model : FieldModel) :
    textLines (objectType typeName model) =
      textLines ("type " ++ typeName ++ " \x7b") ++
        model.typeFields.flatMap (fun f => textLines f.line) ++ [['\x7d']] := by
  unfold objectType objectTypeLines
  rw [textLines_braced_flatMap, List.flatMap_map]
  rfl

/-- A field with an API name has one line. -/
theorem ApiField.textLines_line {f : ApiField} (hname : isApiName f.name.toList = true)
    (htype : IsWord f.type.toList) : textLines f.line = [f.line.toList] :=
  textLines_eq_singleton
    (ApiField.newline_not_mem_line ((isWord_of_isApiName hname).not_mem rfl) htype)

/-! ## 3. What is declared once -/

variable {m : Type → Type} [Monad m] [LawfulMonad m] [MonadAttach m] [LawfulMonadAttach m]

/-- **An object type declares no field twice but the identity.** For every model of a value, under
    any settings and strategy, and for every type name: the text is the line of the type, the lines
    of the fields one behind the other, and a closing brace. A field with an API name has one line,
    and is read back from it. The names of these fields are the three fixed ones and the keys that
    are API names; each is there once, but the identity twice if it is a key. So the names are
    distinct exactly if it is not, and it is one exactly if it is not reserved and some document
    that was looked at has it. If all keys are API names and the type name holds no line break,
    these are the fields that are read from the block. -/
theorem FieldModel.declared_once_but_identity {settings : InferenceSettings}
    {merge : MergeStrategy m} {v : Json} {model : FieldModel}
    (h : FieldModel.IsGiven settings merge v model) (typeName : String) :
    let text := objectType typeName model
    let named := model.typeFields.filter fun f => isApiName f.name.toList
    let names := named.map (·.name)
    textLines text = textLines ("type " ++ typeName ++ " \x7b") ++
        model.typeFields.flatMap (fun f => textLines f.line) ++ [['\x7d']] ∧
    (∀ f ∈ named, textLines f.line = [f.line.toList] ∧ readApiField? f.line.toList = some f) ∧
    (∀ name, name ∈ names ↔ name ∈ ["_id", "createdAt", "updatedAt"] ∨
      name ∈ model.keys ∧ isApiName name.toList = true) ∧
    (∀ name, name ≠ "_id" → names.count name ≤ 1) ∧
    names.count "_id" = (if "_id" ∈ model.keys then 2 else 1) ∧
    (names.Nodup ↔ "_id" ∉ model.keys) ∧
    (∃ samples, v.examinable settings = .ok samples ∧
      ("_id" ∈ model.keys ↔
        "_id" ∉ settings.reservedKeys ∧ ∃ ms ∈ documents samples, "_id" ∈ Entries.keys ms)) ∧
    ('\n' ∉ typeName.toList → (∀ key ∈ model.keys, isApiName key.toList = true) →
      named = model.typeFields ∧ readApiFields? (textLines text) = some model.typeFields) := by
  intro text named names
  obtain ⟨samples, hsamples, hO⟩ := h.exists_outlines
  have hname : ∀ e ∈ model.fields, e.2.name = e.1 := fun _ => hO.name_eq
  have hnames : names = declaredApiNames model.keys := by
    unfold declaredApiNames
    rw [← FieldModel.map_name_typeFields hname, List.filter_map]
    rfl
  have hidentity := count_identity_declaredApiNames hO.nodup_keys
  have hdistinct := nodup_declaredApiNames_iff hO.nodup_keys
  rw [hnames]
  refine ⟨textLines_objectType typeName model, fun f hf => ?_, fun name => mem_declaredApiNames,
    fun name hne => count_declaredApiNames_le hO.nodup_keys hne, hidentity, hdistinct,
    ⟨samples, hsamples, ?_⟩, fun htype hkeys => ?_⟩
  · obtain ⟨hf, hapi⟩ := List.mem_filter.mp hf
    have htype := FieldModel.isWord_type hf
    exact ⟨ApiField.textLines_line hapi htype,
      readApiField?_line ⟨isWord_of_isApiName hapi, htype⟩⟩
  · rw [hO.keys]
    exact mem_fieldKeys_observations
  · have hall : ∀ f ∈ model.typeFields, isApiName f.name.toList = true := fun f hf =>
      FieldModel.isApiName_of_mem_typeFields hname hkeys hf
    exact ⟨List.filter_eq_self.mpr hall, readApiFields?_objectType htype hall⟩

theorem FieldModel.declared_once_but_identity_orderModel :
    FieldModel.IsGiven .standard reject (.arr orderSamples) orderModel ∧
    readApiFields? (textLines (objectType "Order" orderModel)) = some orderModel.typeFields ∧
    (orderModel.typeFields.map (·.name)).Nodup := by
  have hgiven : FieldModel.IsGiven .standard reject (.arr orderSamples) orderModel :=
    FieldModel.isGiven_iff.mpr ofJson_orderSamples
  obtain ⟨_, _, _, _, _, hdistinct, _, hread⟩ :=
    FieldModel.declared_once_but_identity hgiven "Order"
  obtain ⟨hall, hfields⟩ := hread (by decide) (by decide)
  rw [hall] at hdistinct
  exact ⟨hgiven, hfields, hdistinct.mpr (by decide)⟩

/-- Settings under which no key is reserved. -/
def unreservedSettings : InferenceSettings := { InferenceSettings.standard with reservedKeys := [] }

/-- **The identity is declared twice** where it is a key of a document and not reserved. -/
theorem FieldModel.identity_declared_twice :
    ∃ model, FieldModel.IsGiven unreservedSettings (keepFirst : MergeStrategy (Except Empty))
        (.obj [("_id", .int 1)]) model ∧
      readApiFields? (textLines (objectType "Order" model)) =
        some [⟨"_id", "ID", true⟩, ⟨"_id", "Int", true⟩, ⟨"createdAt", "Date", false⟩,
          ⟨"updatedAt", "Date", false⟩] := by
  refine ⟨⟨[("_id", ⟨"_id", .scalar .int, true, [.int 1]⟩)], 1⟩, ?_, by decide⟩
  have hone : Scan.isRequired unreservedSettings 1 1 = true := by decide +kernel
  refine FieldModel.isGiven_iff.mpr ?_
  show Except.ok (Except.ok (⟨[("_id", ⟨"_id", .scalar .int,
    Scan.isRequired unreservedSettings 1 1, [.int 1]⟩)], 1⟩ : FieldModel)) = _
  rw [hone]

end SampleSchema
