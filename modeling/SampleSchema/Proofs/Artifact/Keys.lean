import SampleSchema.Proofs.Artifact.Definitions
import SampleSchema.Proofs.Script.Literal

/-!
# Keys as they are written

A key is any text, and it is written into the generated texts as it is: nothing is quoted, replaced
or left out. So the texts are put together of the lines of their parts, in the order of the model
(`textLines_objectType`, `textLines_inputType`, `textLines_storageSchema`). The line of a field is
one line if its key holds no line break, and declares the key exactly if that is an API name
(`declaredName?_line_iff`).

What the texts mean is another question, and only all keys together decide it: one key can end what
another one begins. If all are API names, the API reads both types as they are meant; and if all are
identifiers, the storage schema is read as a literal of which they are the properties
(`literalNames?_storageSchema`), but for `__proto__`. `FieldModel.keys_as_written` says all of this,
and `FieldModel.hyphen_ill_written` is a key that breaks the texts.
-/

namespace SampleSchema

/-! ## 1. Names before a colon -/

/-- The API name that a line of a type declares. -/
def declaredName? (line : List Char) : Option (List Char) :=
  (readNamed? line).bind fun (name, _) => if isApiName name then some name else none

/-- **The line of a field declares its name** exactly if that is an API name. -/
theorem ApiField.declaredName?_line_iff (f : ApiField) :
    declaredName? f.line.toList = some f.name.toList ↔ isApiName f.name.toList = true := by
  constructor
  · intro h
    obtain ⟨_, _, hname⟩ := Option.bind_eq_some_iff.mp h
    obtain ⟨hapi, heq⟩ := Option.ite_none_right_eq_some.mp hname
    exact Option.some.inj heq ▸ hapi
  · intro h
    have hread : readNamed? f.line.toList = some (f.name.toList, ' ' :: f.typeText) := by
      rw [ApiField.toList_line, List.append_nil]
      exact readNamed?_eq (by simp) (isWord_of_isApiName h) _
    unfold declaredName?
    rw [hread]
    exact if_pos h

/-- **The line of a field is one line** exactly if its name holds no line break. -/
theorem ApiField.textLines_line_iff {f : ApiField} (htype : IsWord f.type.toList) :
    textLines f.line = [f.line.toList] ↔ '\n' ∉ f.name.toList := by
  rw [textLines_eq_singleton_iff]
  refine ⟨fun h hbreak => h ?_, fun h => ApiField.newline_not_mem_line h htype⟩
  rw [f.toList_line]
  simp [pairText, hbreak]

/-! ## 2. Entries of the storage schema -/

section Entries

open Script

/-- A type that the schema library holds is a value, by its path. -/
theorem isValue_library {name : String} (h : isIdentifier name.toList = true) :
    IsValue ("mongoose.Schema.Types." ++ name)
      [.word "mongoose", .mark '.', .word "Schema", .mark '.', .word "Types", .mark '.',
        .word name] where
  reads {after ts place} hafter hapart := by
    have hpath : Reads .between "mongoose.Schema.Types."
        [.word "mongoose", .mark '.', .word "Schema", .mark '.', .word "Types", .mark '.']
        .between := by decide
    rw [String.append_assoc]
    exact hpath.append (reads_front (isName_of_isIdentifier h) hafter hapart)
  afterValue? {rest} hrest := by
    show (if isIdentifier "mongoose".toList = true then some (afterMembers (.mark '.' ::
      .word "Schema" :: .mark '.' :: .word "Types" :: .mark '.' :: .word name :: rest)) else none) =
      some rest
    rw [if_pos (by decide), afterMembers, if_pos (by decide), afterMembers, if_pos (by decide),
      afterMembers, if_pos h, afterMembers_eq hrest]

theorem FieldType.exists_isValue_storage (t : FieldType) : ∃ code, IsValue t.storage code := by
  induction t with
  | scalar k => exact ⟨_, isValue_name (by cases k <;> decide)⟩
  | array e ih =>
    obtain ⟨code, hcode⟩ := ih
    exact ⟨_, hcode.list⟩
  | mixed => exact ⟨_, isValue_name (by decide)⟩
  | unknown => exact ⟨_, isValue_name (by decide)⟩

/-- **What an entry names as the type of a field is a value.** -/
theorem FieldType.exists_isValue_storagePath (t : FieldType) :
    ∃ code, IsValue t.storagePath code := by
  have hmixed : ∃ code, IsValue "mongoose.Schema.Types.Mixed" code :=
    ⟨_, isValue_library (by decide : isIdentifier "Mixed".toList = true)⟩
  cases t with
  | scalar k =>
    cases k with
    | objectId => exact ⟨_, isValue_library (by decide : isIdentifier "ObjectId".toList = true)⟩
    | _ => exact FieldType.exists_isValue_storage _
  | array e => exact FieldType.exists_isValue_storage _
  | mixed => exact hmixed
  | unknown => exact hmixed

/-- A quoted text is a value. -/
theorem isValue_todo : IsValue "'TODO'" [.quoted "TODO"] where
  reads hafter _ := by
    have htext : Reads .between "'TODO'" [.quoted "TODO"] .between := by decide
    exact htext.append hafter
  afterValue? _ := rfl

/-- **The options of a field are items** of a literal. -/
theorem Field.isItem_of_mem_options {f : Field} :
    ∀ o ∈ f.options, IsItem afterValue? (o.1 ++ ": " ++ o.2) o.1 := by
  obtain ⟨code, htype⟩ := f.type.exists_isValue_storagePath
  have htypeItem := isItem_of_isValue (by decide : isIdentifier "type".toList = true) htype
  have hrefItem := isItem_of_isValue (by decide : isIdentifier "ref".toList = true) isValue_todo
  have hrequiredItem := isItem_of_isValue (by decide : isIdentifier "required".toList = true)
    (isValue_name (by decide : isIdentifier "true".toList = true))
  intro o ho
  rcases List.mem_cons.mp ho with rfl | ho
  · exact htypeItem
  · rcases List.mem_append.mp ho with ho | ho
    · split at ho
      · rw [List.mem_singleton.mp ho]
        exact hrefItem
      · cases ho
    · split at ho
      · rw [List.mem_singleton.mp ho]
        exact hrequiredItem
      · cases ho

theorem Field.storageOptions_eq_intercalate (f : Field) :
    f.storageOptions = ", ".intercalate (f.options.map fun o => o.1 ++ ": " ++ o.2) := by
  refine String.toList_inj.mp ?_
  rw [f.storageOptions_eq, String.toList_intercalate]
  simp [Field.optionWords, pairText, Function.comp_def]

/-- **The entry of a field is an item** of the literal if its key is an identifier. -/
theorem isItem_storageEntry {key : String} (hkey : isIdentifier key.toList = true) (f : Field) :
    IsItem afterLiteral? (storageEntry key f) key := by
  have hblank : Reads .between "  " [] .between := by decide
  have hcolon : Reads .between ": " [.mark ':'] .between := by decide
  have hcomma : Reads .between ", " [.mark ','] .between := by decide
  have hopen : Reads .between "\x7b " [.mark '\x7b'] .between := by decide
  have hclose : Reads .between " \x7d" [.mark '\x7d'] .between := by decide
  obtain ⟨code, hreads, hproperties⟩ :=
    exists_code_of_braces hcomma hclose (by decide) (by decide) hopen f.isItem_of_mem_options
  refine ⟨.mark ':' :: .mark '\x7b' :: code, fun {after ts place} hafter _ => ?_,
    fun {rest} _ => ?_⟩
  · have hbehind : BeginsApart (": " ++ ("\x7b " ++ (f.storageOptions ++ " \x7d") ++ after)) :=
      .append (by decide) _
    rw [← f.storageOptions_eq_intercalate] at hreads
    have hall := hblank.append (reads_front (isName_of_isIdentifier hkey)
      (hcolon.append (hreads.append hafter)) hbehind)
    have htext : storageEntry key f ++ after =
        "  " ++ (key ++ (": " ++ ("\x7b " ++ (f.storageOptions ++ " \x7d") ++ after))) := by
      refine String.toList_inj.mp ?_
      simp [storageEntry]
    rw [htext]
    exact hall
  · show property? afterLiteral? (.word key :: .mark ':' :: (.mark '\x7b' :: code ++ rest)) = _
    rw [property?, if_pos hkey, afterLiteral?, hproperties rest]
    rfl

/-- **The storage schema of a model is read as a literal** with its keys, if these are
    identifiers. -/
theorem literalNames?_storageSchema {model : FieldModel}
    (h : ∀ key ∈ model.keys, isIdentifier key.toList = true) :
    literalNames? (storageSchema model) = some (model.keys.filter (· ≠ "__proto__")) := by
  have hcomma : Reads .between ",\n" [.mark ','] .between := by decide
  have hopen : Reads .between "\x7b\n" [.mark '\x7b'] .between := by decide
  have hclose : Reads .between "\n\x7d" [.mark '\x7d'] .between := by decide
  have hitems : ∀ e ∈ model.fields, IsItem afterLiteral? (storageEntry e.1 e.2) e.1 :=
    fun e he => isItem_storageEntry (h e.1 (List.mem_map_of_mem he)) e.2
  unfold storageSchema
  rw [String.append_assoc]
  exact literalNames?_of_items hcomma hclose (by decide) (by decide) hopen hitems

end Entries

/-! ## 3. The texts of a model -/

section Model

variable {model : FieldModel}

/-- The lines of an input type, whatever the names. -/
theorem textLines_inputType (typeName : String) (model : FieldModel) :
    textLines (inputType typeName model) =
      textLines ("input " ++ typeName ++ "Input" ++ " \x7b") ++
        model.inputFields.flatMap (fun f => textLines f.line) ++ [['\x7d']] := by
  unfold inputType inputTypeLines
  rw [textLines_braced_flatMap, List.flatMap_map]

/-- **The fields of an input type are read back** if the keys are API names. -/
theorem readApiFields?_shownBut {hidden : List String} {head : String} (hhead : '\n' ∉ head.toList)
    (h : ∀ key ∈ model.keys, isApiName key.toList = true) :
    readApiFields? (textLines (joinLines (braced head
      ((model.shownBut hidden).map (·.line))))) = some (model.shownBut hidden) := by
  have hplain : ∀ f ∈ model.shownBut hidden, f.IsPlain := by
    intro f hf
    obtain ⟨e, he, rfl⟩ := List.mem_map.mp hf
    have hkey := h e.1 (List.mem_map_of_mem (List.mem_of_mem_filter he))
    exact ⟨isWord_of_isApiName hkey, e.2.type.isWord_api⟩
  have hread := readApiFields?_braced head hplain []
  rw [List.append_nil, ← textLines_type _ hplain hhead] at hread
  exact hread

/-- A type that does not hide a key shows its field once. -/
theorem FieldModel.filter_shownBut (hkeys : model.keys.Nodup) {hidden : List String} {key : String}
    {f : Field} (hf : model.get? key = some f) (hshown : key ∉ hidden) :
    (model.shownBut hidden).filter (fun a => a.name = key) =
      [⟨key, f.type.api, f.required⟩] := by
  unfold FieldModel.shownBut
  rw [List.filter_map, List.filter_filter]
  have hone := Entries.filter_eq_singleton hkeys hf
  have hsame : (model.fields.filter fun e =>
      ((fun a : ApiField => decide (a.name = key)) ∘
        fun e : String × Field => ⟨e.1, e.2.type.api, e.2.required⟩) e && !hidden.contains e.1) =
      model.fields.filter fun e => e.1 = key := by
    refine List.filter_congr fun e _ => ?_
    by_cases he : e.1 = key
    · simp [he, hshown]
    · simp [he]
  rw [hsame, hone]
  rfl

/-- An object type shows the field of a key once that is none of its fixed names. -/
theorem FieldModel.filter_typeFields (hname : ∀ e ∈ model.fields, e.2.name = e.1)
    (hkeys : model.keys.Nodup) {key : String} {f : Field} (hf : model.get? key = some f)
    (hkey : key ∉ identityName :: timestampNames) :
    model.typeFields.filter (fun a => a.name = key) = [⟨key, f.type.api, f.required⟩] := by
  obtain ⟨hid, hstamp⟩ := not_or.mp (List.mem_cons.not.mp hkey)
  have hstamps : timestampFields.filter (fun a => a.name = key) = [] := by
    refine List.filter_eq_nil_iff.mpr fun a ha => ?_
    obtain ⟨name, hmem, rfl⟩ := List.mem_map.mp ha
    simpa using fun heq : name = key => hstamp (heq ▸ hmem)
  have hfields : model.objectFields = model.shownBut timestampNames :=
    FieldModel.map_toApi_filter hname timestampNames
  have hidentity : [identityField].filter (fun a => a.name = key) = [] := by
    refine List.filter_eq_nil_iff.mpr fun a ha => ?_
    rw [List.mem_singleton.mp ha, decide_eq_true_eq]
    exact Ne.symm hid
  unfold FieldModel.typeFields
  rw [hfields, List.cons_append, ← List.singleton_append, List.filter_append, hidentity,
    List.filter_append, FieldModel.filter_shownBut hkeys hf hstamp, hstamps]
  rfl

end Model

variable {m : Type → Type} [Monad m] [LawfulMonad m] [MonadAttach m] [LawfulMonadAttach m]

/-- **Keys are written as they are.** For every model of a value, under any settings and strategy,
    and every type name: the lines of the object type, of the input type and of the storage schema
    are those of the fields, one field after the other in the order of the model and each as its own
    key has it. A field other than the identity and the time stamps is in each of them once. Its line
    is one line exactly if the key holds no line break, and declares the key exactly if that is an
    API name. If all keys are identifiers, the storage schema is read as an object literal, of which
    they are the properties in order, but for `__proto__`. If all are API names, the fields of both
    types are read back from their lines; and if the type name is one as well, the API reads one
    definition in either, with these fields, but for an input type without a field, which is none
    to it. -/
theorem FieldModel.keys_as_written {settings : InferenceSettings} {merge : MergeStrategy m}
    {v : Json} {model : FieldModel} (h : FieldModel.IsGiven settings merge v model)
    (typeName : String) :
    let shown := fun (hidden : List String) =>
      (model.fields.filter fun e => !hidden.contains e.1).map fun e =>
        (⟨e.1, e.2.type.api, e.2.required⟩ : ApiField)
    let object := ⟨"_id", "ID", true⟩ :: shown ["createdAt", "updatedAt"] ++
      [⟨"createdAt", "Date", false⟩, ⟨"updatedAt", "Date", false⟩]
    let input := shown ["_id", "createdAt", "updatedAt"]
    let entries := model.fields.map fun e => (storageEntry e.1 e.2).toList
    (textLines (objectType typeName model) = textLines ("type " ++ typeName ++ " \x7b") ++
        object.flatMap (fun f => textLines f.line) ++ [['\x7d']] ∧
      textLines (inputType typeName model) =
        textLines ("input " ++ typeName ++ "Input" ++ " \x7b") ++
          input.flatMap (fun f => textLines f.line) ++ [['\x7d']] ∧
      textLines (storageSchema model) =
        ['\x7b'] :: (itemLines entries).flatMap (·.splitOn '\n') ++ [['\x7d']]) ∧
    (∀ key f, model.get? key = some f → key ∉ ["_id", "createdAt", "updatedAt"] →
      object.filter (fun a => a.name = key) = [f.toApi] ∧
      input.filter (fun a => a.name = key) = [f.toApi] ∧
      model.fields.filter (fun e => e.1 = key) = [(key, f)] ∧
      (textLines f.toApi.line = [f.toApi.line.toList] ↔ '\n' ∉ key.toList) ∧
      (declaredName? f.toApi.line.toList = some key.toList ↔ isApiName key.toList = true)) ∧
    ((∀ key ∈ model.keys, isIdentifier key.toList = true) →
      Script.literalNames? (storageSchema model) =
        some (model.keys.filter (· ≠ "__proto__"))) ∧
    ((∀ key ∈ model.keys, isApiName key.toList = true) →
      ('\n' ∉ typeName.toList →
        readApiFields? (textLines (objectType typeName model)) = some object ∧
        readApiFields? (textLines (inputType typeName model)) = some input) ∧
      (isApiName typeName.toList = true →
        definitions? (objectType typeName model) =
          some [⟨"type", typeName, object.map (·.toOperation)⟩] ∧
        definitions? (inputType typeName model) =
          if input = [] then none
          else some [⟨"input", typeName ++ "Input", input.map (·.toOperation)⟩])) := by
  intro shown object input entries
  obtain ⟨samples, _, hO⟩ := h.exists_outlines
  have hname : ∀ e ∈ model.fields, e.2.name = e.1 := fun _ => hO.name_eq
  have hobject : model.typeFields = object := by
    have hfields : model.objectFields = shown ["createdAt", "updatedAt"] :=
      FieldModel.map_toApi_filter hname timestampNames
    unfold FieldModel.typeFields
    rw [hfields]
    rfl
  have hinput : model.inputFields = input :=
    FieldModel.map_toApi_filter hname (identityName :: timestampNames)
  refine ⟨⟨?_, ?_, textLines_storageSchema model⟩, fun key f hf hkey => ?_,
    literalNames?_storageSchema, fun hapi => ⟨fun htype => ⟨?_, ?_⟩, fun htype => ?_⟩⟩
  · rw [← hobject]
    exact textLines_objectType typeName model
  · rw [← hinput]
    exact textLines_inputType typeName model
  · obtain ⟨hfield, _⟩ := hO.field key f hf
    have hline := f.toApi.textLines_line_iff f.type.isWord_api
    have hdeclared := f.toApi.declaredName?_line_iff
    rw [show f.toApi.name = key from hfield] at hline hdeclared
    have hone : f.toApi = ⟨key, f.type.api, f.required⟩ := by
      unfold Field.toApi
      rw [hfield]
    refine ⟨?_, ?_, Entries.filter_eq_singleton hO.nodup_keys hf, hline, hdeclared⟩
    · rw [← hobject, hone]
      exact FieldModel.filter_typeFields hname hO.nodup_keys hf hkey
    · rw [hone]
      exact FieldModel.filter_shownBut hO.nodup_keys hf hkey
  · rw [← hobject]
    exact readApiFields?_objectType htype fun f hf =>
      FieldModel.isApiName_of_mem_typeFields hname hapi hf
  · unfold inputType inputTypeLines
    rw [hinput]
    exact readApiFields?_shownBut (by simp [htype]) hapi
  · have hvalues := FieldModel.isApiName_of_mem_values hname hapi
    rw [← hobject, ← hinput]
    exact ⟨definitions?_objectType htype hvalues, definitions?_inputType htype hvalues⟩

/-- All keys of the orders are API names. -/
theorem FieldModel.keys_as_written_orderModel :
    FieldModel.IsGiven .standard reject (.arr orderSamples) orderModel ∧
    (∀ f, orderModel.get? "total" = some f →
      declaredName? f.toApi.line.toList = some "total".toList) ∧
    Script.literalNames? (storageSchema orderModel) = some ["total", "tags", "createdAt"] ∧
    ∃ fields, definitions? (inputType "Order" orderModel) =
      some [⟨"input", "OrderInput", fields⟩] := by
  have hgiven : FieldModel.IsGiven .standard reject (.arr orderSamples) orderModel :=
    FieldModel.isGiven_iff.mpr ofJson_orderSamples
  obtain ⟨_, hfields, hliteral, htypes⟩ := FieldModel.keys_as_written hgiven "Order"
  refine ⟨hgiven, fun f hf => ?_, hliteral (by decide), _,
    ((htypes (by decide)).2 (by decide)).2.trans (if_neg (by decide))⟩
  exact (hfields "total" f hf (by decide)).2.2.2.2.mpr (by decide)

/-- **A key with a hyphen breaks the texts**: its line declares no API name, neither type is read,
    and the storage schema is no literal. -/
theorem FieldModel.hyphen_ill_written :
    ∃ model f, FieldModel.IsGiven .standard (keepFirst : MergeStrategy (Except Empty))
        (.arr [.obj [("first-name", .str "x")]]) model ∧
      model.get? "first-name" = some f ∧ f.toApi ∈ model.inputFields ∧
      textLines f.toApi.line = ["  first-name: String!".toList] ∧
      declaredName? "  first-name: String!".toList = none ∧
      definitions? (objectType "Order" model) = none ∧
      definitions? (inputType "Order" model) = none ∧
      textLines (storageSchema model) =
        ["\x7b".toList, "  first-name: \x7b type: String, required: true \x7d".toList,
          "\x7d".toList] ∧
      Script.literalNames? (storageSchema model) = none := by
  refine ⟨⟨[("first-name", ⟨"first-name", .scalar .string, true, [.str "x"]⟩)], 1⟩, _, ?_, rfl,
    by decide, by decide, by decide, by decide, by decide, by decide, by decide⟩
  have hone : Scan.isRequired .standard 1 1 = true := by decide +kernel
  refine FieldModel.isGiven_iff.mpr ?_
  show Except.ok (Except.ok (⟨[("first-name", ⟨"first-name", .scalar .string,
    Scan.isRequired .standard 1 1, [.str "x"]⟩)], 1⟩ : FieldModel)) = _
  rw [hone]

end SampleSchema
