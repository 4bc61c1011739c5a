import Mathlib.Data.List.Nodup
import SampleSchema.Proofs.Artifact.SchemaNames

/-!
# Two entities in one project

The schemas of the entities of a project are read as one schema. Each adds two types to it, two
fields to `Query` and three to `Mutation`, all named after its type name, and no schema knows of the
others. So whether two entities clash is a question about their names alone, and
`entities_clash_iff` answers it: the types clash if one name is the other with `Input` behind it,
the queries if, but for the case of the first letter, the names are the same or one is the other
with `s` behind it; the mutations never clash. `merged_nodup_iff` says the same of all entities of
a project at once.
-/

namespace SampleSchema

/-! ## 1. The case of the first letter -/

/-- Are two names the same but for the case of their first letter? -/
def SameButFirstCase (name other : String) : Prop :=
  name.toList.head?.map Char.toLower = other.toList.head?.map Char.toLower ∧
    name.toList.tail = other.toList.tail

instance (name other : String) : Decidable (SameButFirstCase name other) :=
  inferInstanceAs (Decidable (_ ∧ _))

/-- **What names of single values do not tell apart**: one is the other with an ending behind it
    exactly if the type names are that but for the case of the first letter. -/
theorem valueName_eq_append_iff {name other : String} (hname : typeNameFault? name = none)
    (hother : typeNameFault? other = none) (ending : String) :
    valueName name = valueName other ++ ending ↔ SameButFirstCase name (other ++ ending) := by
  obtain ⟨c, rest, hc, -, hvalue⟩ := exists_toList_valueName hname
  obtain ⟨d, rest', hd, -, hvalue'⟩ := exists_toList_valueName hother
  unfold SameButFirstCase
  rw [← String.toList_inj, String.toList_append, String.toList_append, hvalue, hvalue', hc, hd]
  simp

/-! ## 2. Names of two entities -/

/-- The types that a schema has of its entity. -/
def entityTypes (typeName : String) : List String := [typeName, typeName ++ "Input"]

/-- The fields of `Query` that look up documents of an entity. -/
def queryNames (typeName : String) : List String := [collectionName typeName, valueName typeName]

/-- The fields of `Mutation` that change documents of an entity. -/
def mutationNames (typeName : String) : List String :=
  ["create", "update", "delete"].map (· ++ typeName)

theorem disjoint_pair_iff {α : Type} {a b c d : α} :
    [a, b].Disjoint [c, d] ↔ (a ≠ c ∧ b ≠ d) ∧ ¬ (b = c ∨ d = a) := by
  simp only [List.disjoint_cons_right, List.disjoint_nil_right, List.mem_cons, List.not_mem_nil,
    or_false, and_true, not_or, ne_eq]
  rw [eq_comm (a := c), eq_comm (a := c), eq_comm (a := d) (b := b)]
  exact ⟨fun ⟨⟨hac, hbc⟩, hda, hbd⟩ => ⟨⟨hac, hbd⟩, hbc, hda⟩,
    fun ⟨⟨hac, hbd⟩, hbc, hda⟩ => ⟨⟨hac, hbc⟩, hda, hbd⟩⟩

/-- **The types of two entities clash** if one name is the input type of the other. -/
theorem disjoint_entityTypes_iff {name other : String} :
    (entityTypes name).Disjoint (entityTypes other) ↔
      name ≠ other ∧ ¬ (name ++ "Input" = other ∨ other ++ "Input" = name) := by
  unfold entityTypes
  rw [disjoint_pair_iff, ne_eq, ne_eq, String.append_left_inj, and_self]

/-- **Their queries clash** also if the names are the same but for the case of the first letter. -/
theorem disjoint_queryNames_iff {name other : String} (hname : typeNameFault? name = none)
    (hother : typeNameFault? other = none) :
    (queryNames name).Disjoint (queryNames other) ↔
      ¬ (SameButFirstCase name other ∨ SameButFirstCase name (other ++ "s") ∨
        SameButFirstCase other (name ++ "s")) := by
  have hsame := valueName_eq_append_iff hname hother ""
  rw [String.append_empty, String.append_empty] at hsame
  unfold queryNames collectionName plural
  rw [disjoint_pair_iff, ne_eq, ne_eq, String.append_left_inj, and_self, ← not_or, hsame,
    valueName_eq_append_iff hname hother, valueName_eq_append_iff hother hname]

/-- Verbs of one length keep the names behind them apart. -/
theorem disjoint_mutationNames {name other : String} (hne : name ≠ other) :
    (mutationNames name).Disjoint (mutationNames other) := by
  have hlength : ∀ verb ∈ ["create", "update", "delete"], verb.toList.length = 6 := by decide
  intro op hop hop'
  obtain ⟨verb, hverb, rfl⟩ := List.mem_map.mp hop
  obtain ⟨verb', hverb', heq⟩ := List.mem_map.mp hop'
  have hlist := congrArg String.toList heq
  rw [String.toList_append, String.toList_append] at hlist
  have hverbs : verb'.toList.length = verb.toList.length :=
    (hlength verb' hverb').trans (hlength verb hverb).symm
  exact hne (String.toList_inj.mp (List.append_inj hlist hverbs).2).symm

/-! ## 3. Schemas of two entities -/

/-- **The names in the schema of an entity**, read from its text: the names of the operations from
    its last lines, and all its definitions as the API reads them. -/
theorem names_apiSchema {typeName : String} (h : typeNameFault? typeName = none)
    (model : FieldModel) :
    (lastFields? "Query" (apiSchema typeName model)).map (·.map (·.name)) =
        some (queryNames typeName) ∧
      (lastFields? "Mutation" (apiSchema typeName model)).map (·.map (·.name)) =
        some (mutationNames typeName) ∧
      ('$' ∉ typeName.toList → (∀ f ∈ model.values, isApiName f.name.toList = true) →
        model.inputFields ≠ [] →
        ∃ object input queried changing, definitions? (apiSchema typeName model) =
          some [⟨"type", typeName, object⟩, ⟨"input", typeName ++ "Input", input⟩,
            ⟨"type", "Query", queried⟩, ⟨"type", "Mutation", changing⟩] ∧
          queried.map (·.name) = queryNames typeName ∧
          changing.map (·.name) = mutationNames typeName) := by
  obtain ⟨hqueries, hmutations⟩ := isPlain_operations h
  obtain ⟨hqueried, _⟩ :=
    fields_of_operations h hqueries (filter_operationBlocks_query typeName) model
  obtain ⟨hchanging, _⟩ :=
    fields_of_operations h hmutations (filter_operationBlocks_mutation typeName) model
  rw [hqueried, hchanging]
  refine ⟨rfl, rfl, fun hdollar hmodel hsome => ?_⟩
  have hnames : ∀ name ∈ apiNames typeName, isApiName name.toList = true := fun name hname =>
    (isApiName_of_mem_apiNames h name hname).mpr hdollar
  exact ⟨_, _, _, _, definitions?_apiSchema_of_ne_nil hnames hmodel hsome, rfl, rfl⟩

/-- **Whether two entities of one project clash.** Of two different names that are accepted, the last
    lines of the schemas declare two fields of `Query` and three of `Mutation`, whatever the models
    are. Where the name has no dollar sign, the names of all fields are API names and the input type
    shows one, the schema is read as four definitions: two types of the entity and, with these
    fields, the two types of the operations. The types of the entities are disjoint exactly if
    neither name is the other with `Input` behind it. The fields of `Query` are exactly if, also up
    to the case of the first letter, the names are not the same and neither is the other with `s`
    behind it. The fields of `Mutation` always are. -/
theorem entities_clash_iff {name other : String} (hname : typeNameFault? name = none)
    (hother : typeNameFault? other = none) (hne : name ≠ other) :
    let types := fun typeName : String => [typeName, typeName ++ "Input"]
    let queried := fun typeName => [collectionName typeName, valueName typeName]
    let changing := fun typeName =>
      ["create" ++ typeName, "update" ++ typeName, "delete" ++ typeName]
    (∀ typeName ∈ [name, other], ∀ model : FieldModel,
      (lastFields? "Query" (apiSchema typeName model)).map (·.map (·.name)) =
        some (queried typeName) ∧
      (lastFields? "Mutation" (apiSchema typeName model)).map (·.map (·.name)) =
        some (changing typeName) ∧
      ('$' ∉ typeName.toList → (∀ f ∈ model.values, isApiName f.name.toList = true) →
        model.inputFields ≠ [] →
        ∃ definitions, definitions? (apiSchema typeName model) = some definitions ∧
          definitions.map (·.name) = types typeName ++ ["Query", "Mutation"] ∧
          ∃ before lookups changes, definitions =
            before ++ [⟨"type", "Query", lookups⟩, ⟨"type", "Mutation", changes⟩] ∧
            lookups.map (·.name) = queried typeName ∧
            changes.map (·.name) = changing typeName)) ∧
    ((types name).Disjoint (types other) ↔
      ¬ (name ++ "Input" = other ∨ other ++ "Input" = name)) ∧
    ((queried name).Disjoint (queried other) ↔
      ¬ (SameButFirstCase name other ∨ SameButFirstCase name (other ++ "s") ∨
        SameButFirstCase other (name ++ "s"))) ∧
    (changing name).Disjoint (changing other) := by
  intro types queried changing
  refine ⟨fun typeName hmem model => ?_, ?_, disjoint_queryNames_iff hname hother,
    disjoint_mutationNames hne⟩
  · have h : typeNameFault? typeName = none := by
      simp only [List.mem_cons, List.not_mem_nil, or_false] at hmem
      rcases hmem with rfl | rfl
      · exact hname
      · exact hother
    obtain ⟨hqueried, hchanging, hread⟩ := names_apiSchema h model
    refine ⟨hqueried, hchanging, fun hdollar hmodel hsome => ?_⟩
    obtain ⟨object, input, lookups, changes, hdefinitions, hlookups, hchanges⟩ :=
      hread hdollar hmodel hsome
    exact ⟨_, hdefinitions, rfl, [_, _], lookups, changes, rfl, hlookups, hchanges⟩
  · exact disjoint_entityTypes_iff.trans (and_iff_right hne)

theorem entities_clash_iff_orderUser :
    typeNameFault? "Order" = none ∧ typeNameFault? "User" = none ∧ "Order" ≠ "User" ∧
    ["Order", "OrderInput"].Disjoint ["User", "UserInput"] ∧
    [collectionName "Order", valueName "Order"].Disjoint
      [collectionName "User", valueName "User"] ∧
    ["createOrder", "updateOrder", "deleteOrder"].Disjoint
      ["createUser", "updateUser", "deleteUser"] := by
  have horder : typeNameFault? "Order" = none := by decide
  have huser : typeNameFault? "User" = none := by decide
  have hne : "Order" ≠ "User" := by decide
  obtain ⟨_, htypes, hqueried, hchanging⟩ := entities_clash_iff horder huser hne
  exact ⟨horder, huser, hne, htypes.mpr (by decide), hqueried.mpr (by decide), hchanging⟩

/-- **Entities that clash**, under names that are accepted: an entity is named as the input type of
    another, the list of one as a single value of another, and single values of two differ in the
    case of a letter that is not kept. -/
theorem entities_clash :
    (typeNameFault? "Order" = none ∧ typeNameFault? "OrderInput" = none ∧
      typeNameFault? "Orders" = none ∧ typeNameFault? "order" = none) ∧
    ((definitions? (apiSchema "Order" orderModel)).map (·.map (·.name)) =
        some ["Order", "OrderInput", "Query", "Mutation"] ∧
      (definitions? (apiSchema "OrderInput" orderModel)).map (·.map (·.name)) =
        some ["OrderInput", "OrderInputInput", "Query", "Mutation"]) ∧
    ((lastFields? "Query" (apiSchema "Order" orderModel)).map (·.map (·.name)) =
        some ["orders", "order"] ∧
      (lastFields? "Query" (apiSchema "Orders" orderModel)).map (·.map (·.name)) =
        some ["orderss", "orders"] ∧
      (lastFields? "Query" (apiSchema "order" orderModel)).map (·.map (·.name)) =
        some ["orders", "order"]) ∧
    ¬ ∀ name other : String, typeNameFault? name = none → typeNameFault? other = none →
      name ≠ other →
        [name, name ++ "Input"].Disjoint [other, other ++ "Input"] ∧
        [collectionName name, valueName name].Disjoint
          [collectionName other, valueName other] ∧
        ["create" ++ name, "update" ++ name, "delete" ++ name].Disjoint
          ["create" ++ other, "update" ++ other, "delete" ++ other] := by
  have horder : typeNameFault? "Order" = none := by decide
  have hinput : typeNameFault? "OrderInput" = none := by decide
  have horders : typeNameFault? "Orders" = none := by decide
  have hsmall : typeNameFault? "order" = none := by decide
  obtain ⟨hqueried, _, htypes⟩ := names_apiSchema horder orderModel
  obtain ⟨_, _, htypes'⟩ := names_apiSchema hinput orderModel
  obtain ⟨_, _, _, _, hread, _⟩ := htypes (by decide) (by decide) (by decide)
  obtain ⟨_, _, _, _, hread', _⟩ := htypes' (by decide) (by decide) (by decide)
  refine ⟨⟨horder, hinput, horders, hsmall⟩, ⟨?_, ?_⟩,
    ⟨hqueried.trans (by decide), (names_apiSchema horders _).1.trans (by decide),
      (names_apiSchema hsmall _).1.trans (by decide)⟩, fun hdisjoint => ?_⟩
  · rw [hread]
    rfl
  · rw [hread']
    rfl
  · obtain ⟨htypes, _⟩ := hdisjoint "Order" "OrderInput" horder hinput (by decide)
    exact (disjoint_entityTypes_iff.mp htypes).2 (by decide)

/-! ## 4. All entities of a project -/

/-- **The merged schema of a project has no name twice** exactly if no two of its entities clash:
    neither a type nor a field of `Query`; it never has a field of `Mutation` twice. -/
theorem merged_nodup_iff {names : List String}
    (hnames : ∀ name ∈ names, typeNameFault? name = none) (hdistinct : names.Nodup) :
    ((names.flatMap entityTypes).Nodup ↔
      names.Pairwise fun name other => ¬ (name ++ "Input" = other ∨ other ++ "Input" = name)) ∧
    ((names.flatMap queryNames).Nodup ↔
      names.Pairwise fun name other => ¬ (SameButFirstCase name other ∨
        SameButFirstCase name (other ++ "s") ∨ SameButFirstCase other (name ++ "s"))) ∧
    (names.flatMap mutationNames).Nodup := by
  have htypes : ∀ name ∈ names, (entityTypes name).Nodup := by
    intro name _
    simpa [entityTypes] using self_ne_input name
  have hqueried : ∀ name ∈ names, (queryNames name).Nodup := by
    intro name _
    simp [queryNames, collectionName, plural]
  have hchanging : ∀ name ∈ names, (mutationNames name).Nodup := by
    intro name _
    exact List.Nodup.map (fun _ _ => (String.append_left_inj name).mp) (by decide)
  rw [List.nodup_flatMap, List.nodup_flatMap, List.nodup_flatMap, and_iff_right htypes,
    and_iff_right hqueried, and_iff_right hchanging]
  refine ⟨?_, List.Pairwise.iff_of_mem fun hmem hmem' =>
    disjoint_queryNames_iff (hnames _ hmem) (hnames _ hmem'),
    hdistinct.imp disjoint_mutationNames⟩
  rw [List.Pairwise.iff fun _ _ => disjoint_entityTypes_iff, List.pairwise_and_iff]
  exact and_iff_right hdistinct

end SampleSchema
