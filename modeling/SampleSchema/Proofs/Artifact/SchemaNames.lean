import SampleSchema.Proofs.Artifact.Definitions
import SampleSchema.Proofs.Artifact.References

/-!
# The names of an API schema

A schema defines four types, two of them named after the type name, and the operations on them have
names that are made of it. The type name is accepted as a name of SCRIPTS, and the API has other
rules: it knows no dollar sign, it has scalar types of its own, and the types of the operations have
fixed names.

`schema_names` says how far an accepted name is a good one for it: the names are API names exactly
if the type name has no dollar sign, and a defined type has the name of a scalar type only if it is
the type name itself. What the schema defines and what it refers to is read from its text, as the
API reads it (`definitions?_apiSchema`). `ill_named_accepted` are two names that show where the rules
differ.
-/

namespace SampleSchema

/-! ## 1. Names made of a type name -/

section Accepted

variable {typeName : String} (h : typeNameFault? typeName = none)
include h

/-- What is put around a type name has no dollar sign, and none becomes one in lower case. -/
theorem dollar_mem_apiNames_iff :
    ∀ name ∈ apiNames typeName, '$' ∈ name.toList ↔ '$' ∈ typeName.toList := by
  obtain ⟨c, rest, hname, hstart, hvalue⟩ := exists_toList_valueName h
  have hlower : c.toLower = '$' ↔ c = '$' :=
    of_forall_identifierPart (p := fun c => c.toLower = '$' ↔ c = '$') (by decide +kernel)
      (isIdentifierPart_of_start hstart)
  have hsingle : '$' ∈ (valueName typeName).toList ↔ '$' ∈ typeName.toList := by
    rw [hvalue, hname, List.mem_cons, List.mem_cons, eq_comm, hlower, eq_comm]
  have hverbs : ∀ verb ∈ ["", "create", "update", "delete"], '$' ∉ verb.toList := by decide
  have hendings : ∀ ending ∈ ["", "Input", "s"], '$' ∉ ending.toList := by decide
  intro name hmem
  obtain ⟨verb, core, ending, rfl, hverb, hcore, hending⟩ := exists_of_mem_apiNames hmem
  have hkept : '$' ∈ core.toList ↔ '$' ∈ typeName.toList := by
    simp only [List.mem_cons, List.not_mem_nil, or_false] at hcore
    rcases hcore with rfl | rfl
    · rfl
    · exact hsingle
  rw [String.toList_append, String.toList_append, List.mem_append, List.mem_append,
    or_iff_left (hendings ending hending), or_iff_right (hverbs verb hverb), hkept]

/-- **The names made of a type name are API names** exactly if it has no dollar sign. -/
theorem isApiName_of_mem_apiNames :
    ∀ name ∈ apiNames typeName, isApiName name.toList = true ↔ '$' ∉ typeName.toList := by
  intro name hmem
  rw [isApiName_iff, and_iff_right (isIdentifier_of_mem_apiNames h name hmem),
    dollar_mem_apiNames_iff h name hmem]

end Accepted

/-! ## 2. Types that a schema refers to -/

/-- The scalar types: those that every API knows, and the two that fields use besides them. -/
def scalarNames : List String := ["String", "Int", "Float", "Boolean", "ID", "Date", "JSON"]

/-- The types that an operation takes and gives. -/
def ApiOperation.usedTypes (op : ApiOperation) : List (List Char) :=
  (op.arguments.map (·.2) ++ [op.result]).flatMap fun type => references type.toList

/-- **A spelled type refers to what is at the bottom of its arrays.** -/
theorem FieldType.references_api (t : FieldType) :
    references t.api.toList = [t.leaf.api.toList] := by
  induction t with
  | scalar k => cases k <;> decide
  | array e ih => exact (references_brackets e.api).trans ih
  | mixed => decide
  | unknown => decide

theorem FieldType.leaf_api_mem_scalarNames (t : FieldType) : t.leaf.api ∈ scalarNames := by
  induction t with
  | scalar k => cases k <;> decide
  | array e ih => exact ih
  | mixed => decide
  | unknown => decide

/-- The mark behind a type is no reference. -/
theorem usedTypes_toOperation (f : ApiField) :
    f.toOperation.usedTypes = references f.type.toList := by
  unfold ApiOperation.usedTypes ApiField.toOperation
  rw [List.map_nil, List.nil_append, List.flatMap_singleton, String.toList_append]
  cases f.required with
  | false => exact congrArg references (List.append_nil _)
  | true => exact (words_append_separator (by decide) f.type.toList []).trans (List.append_nil _)

/-- **The fields of a model use scalar types**, those of the object type and those of the input
    type. -/
theorem FieldModel.usedTypes_of_mem {model : FieldModel} {op : ApiOperation}
    (hop : op ∈ model.declared ++ model.inputFields.map (·.toOperation)) :
    ∃ name ∈ scalarNames, op.usedTypes = [name.toList] := by
  have hshown : ∀ e : Field, ∃ name ∈ scalarNames, e.toApi.toOperation.usedTypes = [name.toList] :=
    fun e => ⟨e.type.leaf.api, e.type.leaf_api_mem_scalarNames,
      (usedTypes_toOperation e.toApi).trans e.type.references_api⟩
  have hfixed : ∀ f ∈ identityField :: timestampFields,
      ∃ name ∈ scalarNames, f.toOperation.usedTypes = [name.toList] := by decide
  rcases List.mem_append.mp hop with hop | hop
  · obtain ⟨f, hf, rfl⟩ := List.mem_map.mp hop
    rcases List.mem_append.mp hf with hf | hf
    · rcases List.mem_cons.mp hf with rfl | hf
      · exact hfixed _ List.mem_cons_self
      · obtain ⟨e, _, rfl⟩ := List.mem_map.mp hf
        exact hshown e
    · exact hfixed f (List.mem_cons_of_mem _ hf)
  · obtain ⟨f, hf, rfl⟩ := List.mem_map.mp hop
    obtain ⟨e, _, rfl⟩ := List.mem_map.mp hf
    exact hshown e

/-- An identifier between marks is the one reference. -/
theorem references_marked {name : List Char} (hname : isIdentifier name = true)
    (before after : List Char) (hbefore : before.all (!isReferencePart ·) = true)
    (hafter : after.all (!isReferencePart ·) = true) :
    references (before ++ (name ++ after)) = [name] := by
  obtain ⟨hne, hparts⟩ := parts_of_isIdentifier hname
  have hpart : ∀ c ∈ name, (!isReferencePart c) = false := by
    intro c hc
    unfold isReferencePart
    rw [hparts c hc]
    rfl
  exact words_marked before after hne hpart (List.all_eq_true.mp hbefore)
    (List.all_eq_true.mp hafter)

/-- **Operations use the types of the entity**, identities and truth values. -/
theorem usedTypes_operations {typeName : String} (h : typeNameFault? typeName = none) :
    ∀ op ∈ queries typeName ++ mutations typeName, ∀ type ∈ op.usedTypes,
      type ∈ [typeName, typeName ++ "Input", "ID", "Boolean"].map (·.toList) := by
  have hobject := isIdentifier_of_typeNameFault? h
  have hinput : isIdentifier (typeName ++ "Input").toList = true :=
    isIdentifier_of_mem_apiNames h _ (List.mem_cons_of_mem _ List.mem_cons_self)
  have hgiven : references typeName.toList = [typeName.toList] := by
    have hmarked := references_marked hobject [] [] rfl rfl
    rwa [List.append_nil] at hmarked
  have hlist : references ("[" ++ typeName ++ "!]!").toList = [typeName.toList] := by
    have hmarked := references_marked hobject ['['] ['!', ']', '!'] (by decide)
      (by decide)
    simpa using hmarked
  have htaken : references (typeName ++ "Input!").toList = [(typeName ++ "Input").toList] := by
    have hmarked := references_marked hinput [] ['!'] rfl (by decide)
    simpa using hmarked
  have hid : references "ID!".toList = ["ID".toList] := by decide
  have hboolean : references "Boolean!".toList = ["Boolean".toList] := by decide
  intro op hop type htype
  simp only [queries, mutations, List.cons_append, List.nil_append, List.mem_cons,
    List.not_mem_nil, or_false] at hop
  unfold ApiOperation.usedTypes at htype
  rcases hop with rfl | rfl | rfl | rfl | rfl <;>
    simp only [List.map_cons, List.map_nil, List.cons_append, List.nil_append, List.flatMap_cons,
      List.flatMap_nil, hgiven, hlist, htaken, hid, hboolean, List.mem_cons, List.not_mem_nil,
      or_false] at htype ⊢ <;>
    tauto

/-! ## 3. Names of a schema -/

/-- The types that the schema of a type name defines. -/
def apiTypes (typeName : String) : List String :=
  [typeName, typeName ++ "Input", "Query", "Mutation"]

/-- An input type has no name of another type. -/
theorem input_ne (typeName : String) {name : String} (hname : ¬ "Input".toList <:+ name.toList) :
    typeName ++ "Input" ≠ name := by
  rintro rfl
  refine hname ?_
  rw [String.toList_append]
  exact List.suffix_append _ _

theorem self_ne_input (typeName : String) : typeName ≠ typeName ++ "Input" := fun heq =>
  absurd (String.append_eq_left_iff.mp heq.symm) (by decide)

/-- **The defined types are distinct** unless the entity is named as a type of operations. -/
theorem nodup_apiTypes {typeName : String} (hquery : typeName ≠ "Query")
    (hmutation : typeName ≠ "Mutation") : (apiTypes typeName).Nodup := by
  have hself : typeName ≠ typeName ++ "Input" := self_ne_input typeName
  have hinput : typeName ++ "Input" ≠ "Query" := input_ne typeName (by decide)
  have hinput' : typeName ++ "Input" ≠ "Mutation" := input_ne typeName (by decide)
  simp [apiTypes, hself, hquery, hmutation, hinput, hinput']

/-- **A defined type has the name of a scalar type** only if the entity has. -/
theorem apiTypes_disjoint_iff {typeName : String} :
    (∀ name ∈ apiTypes typeName, name ∉ scalarNames) ↔ typeName ∉ scalarNames := by
  constructor
  · intro hnone
    exact hnone typeName List.mem_cons_self
  · intro hfree name hmem
    have hscalar : ∀ scalar ∈ scalarNames, ¬ "Input".toList <:+ scalar.toList := by decide
    simp only [apiTypes, List.mem_cons, List.not_mem_nil, or_false] at hmem
    rcases hmem with rfl | rfl | rfl | rfl
    · exact hfree
    · intro hinput
      exact input_ne typeName (hscalar _ hinput) rfl
    · decide
    · decide

/-- **How good a name of the API an accepted type name is.** In the schema of any model the last
    lines behind the heads of `Query` and `Mutation` declare five operations, which take and give the
    two types of the entity, identities and truth values. Where the type name has no dollar sign and
    the names of all fields are API names, the schema is read as four definitions, of the four types
    in this order: the fields of the first two use scalar types, and those of the last two are the
    operations. Only if the input type shows no field is it no schema to the API; and where the type
    name has a dollar sign, it never is one. The two types of the entity and the five operations
    have API names exactly if the type name has no dollar sign. The four types are distinct unless
    the entity is itself named `Query` or `Mutation`, and none of them has the name of a scalar type
    exactly if the entity has not. -/
theorem schema_names {typeName : String} (h : typeNameFault? typeName = none) :
    let operations : List String := [collectionName typeName, valueName typeName,
      "create" ++ typeName, "update" ++ typeName, "delete" ++ typeName]
    let defined : List String := [typeName, typeName ++ "Input", "Query", "Mutation"]
    (∀ model : FieldModel, ∃ queried changing,
      lastFields? "Query" (apiSchema typeName model) = some queried ∧
      lastFields? "Mutation" (apiSchema typeName model) = some changing ∧
      (queried ++ changing).map (·.name) = operations ∧
      (∀ op ∈ queried ++ changing, ∀ type ∈ op.usedTypes,
        type ∈ [typeName, typeName ++ "Input", "ID", "Boolean"].map (·.toList)) ∧
      ('$' ∉ typeName.toList → (∀ f ∈ model.values, isApiName f.name.toList = true) →
        (model.inputFields ≠ [] → ∃ object input, definitions? (apiSchema typeName model) =
          some [⟨"type", typeName, object⟩, ⟨"input", typeName ++ "Input", input⟩,
            ⟨"type", "Query", queried⟩, ⟨"type", "Mutation", changing⟩] ∧
          ∀ op ∈ object ++ input, ∃ name ∈ scalarNames, op.usedTypes = [name.toList]) ∧
        (model.inputFields = [] → definitions? (apiSchema typeName model) = none)) ∧
      ('$' ∈ typeName.toList → definitions? (apiSchema typeName model) = none)) ∧
    (∀ name ∈ typeName :: (typeName ++ "Input") :: operations,
      isApiName name.toList = true ↔ '$' ∉ typeName.toList) ∧
    (typeName ≠ "Query" → typeName ≠ "Mutation" → defined.Nodup) ∧
    ((∀ name ∈ defined, name ∉ scalarNames) ↔ typeName ∉ scalarNames) := by
  intro operations defined
  obtain ⟨hqueries, hmutations⟩ := isPlain_operations h
  refine ⟨fun model => ⟨queries typeName, mutations typeName, ?_, ?_, rfl, usedTypes_operations h,
      fun hdollar hmodel => ?_, fun hdollar => ?_⟩,
    isApiName_of_mem_apiNames h, nodup_apiTypes, apiTypes_disjoint_iff⟩
  · exact (fields_of_operations h hqueries (filter_operationBlocks_query typeName) model).1
  · exact (fields_of_operations h hmutations (filter_operationBlocks_mutation typeName) model).1
  · have hnames : ∀ name ∈ apiNames typeName, isApiName name.toList = true := fun name hname =>
      (isApiName_of_mem_apiNames h name hname).mpr hdollar
    rw [definitions?_apiSchema hnames hmodel]
    exact ⟨fun hsome => ⟨model.declared, model.inputFields.map (·.toOperation), if_neg hsome,
      fun op hop => FieldModel.usedTypes_of_mem hop⟩, fun hnone => if_pos hnone⟩
  · have hword := Script.isName_of_isIdentifier (isIdentifier_of_typeNameFault? h)
    refine definitions?_eq_none hword ?_ model
    have hname := isApiName_of_mem_apiNames h typeName List.mem_cons_self
    exact Bool.eq_false_iff.mpr fun hapi => hname.mp hapi hdollar

theorem schema_names_order :
    typeNameFault? "Order" = none ∧
    (∃ object input queried changing, definitions? (apiSchema "Order" orderModel) =
      some [⟨"type", "Order", object⟩, ⟨"input", "OrderInput", input⟩,
        ⟨"type", "Query", queried⟩, ⟨"type", "Mutation", changing⟩]) ∧
    isApiName (collectionName "Order").toList = true ∧
    ["Order", "OrderInput", "Query", "Mutation"].Nodup ∧ "OrderInput" ∉ scalarNames := by
  have hname : typeNameFault? "Order" = none := by decide
  obtain ⟨hmodel, hapi, hdistinct, hscalar⟩ := schema_names hname
  obtain ⟨queried, changing, _, _, _, _, hdefined, _⟩ := hmodel orderModel
  obtain ⟨object, input, hread, _⟩ := (hdefined (by decide) (by decide)).1 (by decide)
  have hnames := (hapi (collectionName "Order") (by simp)).mpr (by decide)
  have hfree := hscalar.mpr (by decide) "OrderInput" (List.mem_cons_of_mem _ List.mem_cons_self)
  exact ⟨hname, ⟨object, input, queried, changing, hread⟩, hnames, hdistinct (by decide) (by decide),
    hfree⟩

/-- **Two names that are accepted**: a schema begins with a type whose name is no API name, so that
    the API reads no schema in it; and another one defines a type that has the name of a scalar type
    its own fields refer to. -/
theorem ill_named_accepted :
    (typeNameFault? "$Store" = none ∧
      (Script.tokens (apiSchema "$Store" orderModel)).take 3 =
        [.word "type", .word "$Store", .mark '\x7b'] ∧
      isApiName "$Store".toList = false ∧ definitions? (apiSchema "$Store" orderModel) = none) ∧
    typeNameFault? "Date" = none ∧
      (∃ fields later, definitions? (apiSchema "Date" orderModel) =
        some (⟨"type", "Date", fields⟩ :: later) ∧ ⟨"createdAt", [], "Date"⟩ ∈ fields) ∧
      "Date" ∈ scalarNames := by
  have hdate : typeNameFault? "Date" = none := by decide
  have hnames : ∀ name ∈ apiNames "Date", isApiName name.toList = true := by decide
  have hread := @definitions?_apiSchema "Date" hnames orderModel (by decide)
  rw [if_neg (by decide)] at hread
  have hstore : Script.IsName "$Store" := by decide
  obtain ⟨more, htokens⟩ := exists_tokens_apiSchema hstore orderModel
  exact ⟨⟨by decide, congrArg (List.take 3) htokens, by decide,
    definitions?_eq_none hstore (by decide) _⟩, hdate, ⟨_, _, hread, by decide⟩, by decide⟩

end SampleSchema
