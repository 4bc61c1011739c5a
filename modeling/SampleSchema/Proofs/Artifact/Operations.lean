import SampleSchema.Artifact.Resolvers
import SampleSchema.Proofs.Artifact.ReadBack
import SampleSchema.Proofs.Naming

/-!
# Reading the operations of an API schema

The lines of a schema are a row of BLOCKS, each a head and the lines between its braces
(`readBlocks`). The fields of a type are those of all blocks that it heads, each a name with the
arguments it takes and what it gives (`readOperation?_line`). Whatever the names of a model hold, the
last two blocks of its schema declare the operations; and unless one breaks its line, they are the
only blocks headed by `Query` and `Mutation` but for an entity of one of these names
(`fields_of_operations`).

This is a reader of LINES, and the API knows no lines. The blocks are what the API reads if the type
name and the names of all fields are API names and none of them is without a field. Of any other name
it may read more, such as a brace or a comment, and here that is only a part of a line.
-/

namespace SampleSchema

/-! ## 1. Blocks -/

/-- A head and the lines between the braces behind it. -/
structure Block where
  head : List Char
  lines : List (List Char)
  deriving DecidableEq

/-- What stands before the brace that ends a line. -/
def openHead? (line : List Char) : Option (List Char) :=
  match line.reverse with
  | '\x7b' :: ' ' :: before => some before.reverse
  | _ => none

/-- The blocks among lines, where some block may be open already. A line that ends in a brace opens
    one, a brace alone closes it; other lines between blocks are not read, nor anything inside a
    line. -/
def readBlocks : Option Block → List (List Char) → List Block
  | _, [] => []
  | none, line :: rest => readBlocks ((openHead? line).map fun head => ⟨head, []⟩) rest
  | some block, line :: rest =>
    if line = ['\x7d'] then block :: readBlocks none rest
    else readBlocks (some { block with lines := block.lines ++ [line] }) rest

theorem openHead?_append (head : List Char) : openHead? (head ++ [' ', '\x7b']) = some head := by
  unfold openHead?
  rw [List.reverse_append]
  exact congrArg some head.reverse_reverse

theorem readBlocks_open {head : List Char} {before ls : List (List Char)}
    (h : ∀ l ∈ ls, l ≠ ['\x7d']) (rest : List (List Char)) :
    readBlocks (some ⟨head, before⟩) (ls ++ ['\x7d'] :: rest) =
      ⟨head, before ++ ls⟩ :: readBlocks none rest := by
  induction ls generalizing before with
  | nil =>
    rw [List.append_nil]
    exact if_pos rfl
  | cons l more ih =>
    have hmore := @ih (before ++ [l]) fun m hm => h m (List.mem_cons_of_mem _ hm)
    rw [List.append_assoc] at hmore
    rw [List.cons_append, readBlocks, if_neg (h l List.mem_cons_self)]
    exact hmore

/-- **A block is read back**, and what follows it is read as if it stood alone. -/
theorem readBlocks_braced (head : String) {ls : List String} (h : ∀ l ∈ ls, l.toList ≠ ['\x7d'])
    (rest : List (List Char)) :
    readBlocks none ((braced head ls).map (·.toList) ++ rest) =
      ⟨head.toList, ls.map (·.toList)⟩ :: readBlocks none rest := by
  have hlines : ∀ l ∈ ls.map (·.toList), l ≠ ['\x7d'] := by
    intro l hl
    obtain ⟨s, hs, rfl⟩ := List.mem_map.mp hl
    exact h s hs
  have htext : (braced head ls).map (·.toList) ++ rest =
      (head.toList ++ [' ', '\x7b']) :: (ls.map (·.toList) ++ ['\x7d'] :: rest) := by
    simp [braced]
  rw [htext, readBlocks, openHead?_append]
  exact readBlocks_open hlines rest

theorem readBlocks_empty (rest : List (List Char)) :
    readBlocks none ([] :: rest) = readBlocks none rest := rfl

/-- **Behind a brace alone no block is open**, whatever came before it. -/
theorem readBlocks_append_brace (block : Option Block) (ls rest : List (List Char)) :
    readBlocks block (ls ++ ['\x7d'] :: rest) =
      readBlocks block (ls ++ [['\x7d']]) ++ readBlocks none rest := by
  induction ls generalizing block with
  | nil =>
    cases block with
    | none => rfl
    | some block => simp [readBlocks]
  | cons l more ih =>
    cases block with
    | none => exact ih _
    | some block =>
      rw [List.cons_append, List.cons_append, readBlocks, readBlocks]
      split
      · rw [ih, List.cons_append]
      · exact ih _

/-! ## 2. Operations -/

/-- An operation, or a field without arguments, from its line. -/
def readOperation? (line : List Char) : Option ApiOperation :=
  match cut? '(' line with
  | none => (readPair? line).map fun (name, result) => ⟨String.ofList name, [], String.ofList result⟩
  | some (name, behind) => do
    let (listed, said) ← cut? ')' behind
    let arguments ← readPairs? listed
    let (_, result) ← cut? ':' said
    pure ⟨String.ofList (strip name),
      arguments.map fun (name, type) => (String.ofList name, String.ofList type),
      String.ofList (strip result)⟩

/-- The blocks of a schema that are headed by a type. -/
def typeBlocks (name schema : String) : List Block :=
  (readBlocks none (textLines schema)).filter (·.head = ("type " ++ name).toList)

/-- The fields of a type in a schema: those of all blocks that are headed by it. -/
def typeFields? (name schema : String) : Option (List ApiOperation) :=
  ((typeBlocks name schema).flatMap (·.lines)).mapM readOperation?

/-- A type without blanks and without the characters that end it. -/
def IsTypeText (cs : List Char) : Prop := cs ≠ [] ∧ ∀ c ∈ [' ', ',', '(', ')', '\n'], c ∉ cs

instance (cs : List Char) : Decidable (IsTypeText cs) :=
  decidable_of_iff (cs ≠ [] ∧ [' ', ',', '(', ')', '\n'].all (fun c => !cs.contains c) = true)
    (by simp [IsTypeText])

/-- An operation with names that are words. -/
structure ApiOperation.IsPlain (op : ApiOperation) : Prop where
  name : IsWord op.name.toList
  arguments : ∀ a ∈ op.arguments, IsWord a.1.toList ∧ IsTypeText a.2.toList
  result : IsTypeText op.result.toList

/-- The arguments as they are read. -/
def ApiOperation.argumentWords (op : ApiOperation) : List (List Char × List Char) :=
  op.arguments.map fun a => (a.1.toList, a.2.toList)

theorem ApiOperation.map_argumentWords (op : ApiOperation) :
    (op.argumentWords.map fun (name, type) => (String.ofList name, String.ofList type)) =
      op.arguments := by
  simp [argumentWords, Function.comp_def]

theorem ApiOperation.toList_line (op : ApiOperation) :
    op.line.toList =
      if op.arguments = [] then [' ', ' '] ++ (pairText (op.name.toList, op.result.toList) ++ [])
      else ([' ', ' '] ++ op.name.toList) ++ '(' :: ([',', ' '].intercalate
        (op.argumentWords.map pairText) ++ ')' :: ':' :: ' ' :: op.result.toList) := by
  unfold ApiOperation.line ApiOperation.argumentText ApiOperation.argumentWords pairText
  split <;> rename_i h
  · simp [List.isEmpty_iff.mp h]
  · simp [List.isEmpty_iff.not.mp h, Function.comp_def]

theorem isTypeText_of_isWord {cs : List Char} (h : IsWord cs) (before after : List Char)
    (hbefore : ∀ c ∈ before, c = '[') (hafter : ∀ c ∈ after, c ∈ ['!', ']']) :
    IsTypeText (before ++ (cs ++ after)) := by
  have hother : ∀ c ∈ [' ', ',', '(', ')', '\n'], isWordPart c = false ∧ c ∉ ['[', '!', ']'] := by
    intro c hc
    simp only [List.mem_cons, List.not_mem_nil, or_false] at hc
    rcases hc with rfl | rfl | rfl | rfl | rfl
    all_goals decide
  refine ⟨fun hnil => ?_, fun c hc hmem => ?_⟩
  · rw [List.append_eq_nil_iff, List.append_eq_nil_iff] at hnil
    exact h.1 hnil.2.1
  · obtain ⟨hword, hmark⟩ := hother c hc
    rcases List.mem_append.mp hmem with hmem | hmem
    · exact hmark (hbefore c hmem ▸ List.mem_cons_self)
    · rcases List.mem_append.mp hmem with hmem | hmem
      · exact h.not_mem hword hmem
      · exact hmark (List.mem_cons_of_mem _ (hafter c hmem))

section Plain

variable {op : ApiOperation} (h : op.IsPlain)
include h

theorem ApiOperation.IsPlain.argumentWords {p : List Char × List Char}
    (hp : p ∈ op.argumentWords) : IsWord p.1 ∧ IsTypeText p.2 := by
  obtain ⟨a, ha, rfl⟩ := List.mem_map.mp hp
  exact h.arguments a ha

theorem ApiOperation.IsPlain.not_mem_pairText {c : Char} (hc : c ∈ ['(', ')', '\n'])
    {p : List Char × List Char} (hp : p ∈ op.argumentWords) : c ∉ pairText p := by
  obtain ⟨hname, htype⟩ := h.argumentWords hp
  have hother : isWordPart c = false ∧ c ≠ ':' ∧ c ≠ ' ' ∧ c ∈ [' ', ',', '(', ')', '\n'] := by
    simp only [List.mem_cons, List.not_mem_nil, or_false] at hc
    rcases hc with rfl | rfl | rfl
    all_goals decide
  simp [pairText, hname.not_mem hother.1, hother.2.1, hother.2.2.1, htype.2 c hother.2.2.2]

theorem ApiOperation.IsPlain.not_mem_arguments {c : Char} (hc : c ∈ ['(', ')', '\n']) :
    c ∉ [',', ' '].intercalate (op.argumentWords.map pairText) := by
  have hbetween : c ∉ [',', ' '] := by
    simp only [List.mem_cons, List.not_mem_nil, or_false] at hc
    rcases hc with rfl | rfl | rfl
    all_goals decide
  refine not_mem_intercalate hbetween fun text htext => ?_
  obtain ⟨p, hp, rfl⟩ := List.mem_map.mp htext
  exact h.not_mem_pairText hc hp

theorem ApiOperation.IsPlain.newline_not_mem_line : '\n' ∉ op.line.toList := by
  have hname : '\n' ∉ op.name.toList := h.name.not_mem rfl
  have hresult : '\n' ∉ op.result.toList := h.result.2 _ (by decide)
  have harguments := h.not_mem_arguments (c := '\n') (by decide)
  rw [op.toList_line]
  split <;> simp [pairText, hname, hresult, harguments]

theorem ApiOperation.IsPlain.argumentWords_between {p : List Char × List Char}
    (hp : p ∈ op.argumentWords) : IsWord p.1 ∧ p.2 ≠ [] ∧ ' ' ∉ p.2 ∧ ',' ∉ p.2 := by
  obtain ⟨hword, htype⟩ := h.argumentWords hp
  exact ⟨hword, htype.1, htype.2 _ (by decide), htype.2 _ (by decide)⟩

/-- Without arguments, a line is a name and a type. -/
theorem readOperation?_of_eq_nil (harguments : op.arguments = []) :
    readOperation? op.line.toList = some op := by
  have hopen : '(' ∉ op.name.toList := h.name.not_mem rfl
  have hresult : '(' ∉ op.result.toList := h.result.2 _ (by decide)
  have hline : '(' ∉ [' ', ' '] ++ (pairText (op.name.toList, op.result.toList) ++ []) := by
    simp [pairText, hopen, hresult]
  have hcut : cut? '(' ([' ', ' '] ++ (pairText (op.name.toList, op.result.toList) ++ [])) =
      none := if_neg hline
  have hblank : ∀ c ∈ [' ', ' '], c = ' ' := by simp
  have hnone : ∀ c ∈ ([] : List Char), c = ' ' := by simp
  have hpair := readPair?_eq (p := (op.name.toList, op.result.toList)) hblank h.name h.result.1
    (h.result.2 _ (by decide)) hnone
  unfold readOperation?
  rw [op.toList_line, if_pos harguments, hcut]
  dsimp only
  rw [hpair]
  simp [← harguments]

/-- With arguments, it is cut at the brackets around them. -/
theorem readOperation?_of_ne_nil (harguments : op.arguments ≠ []) :
    readOperation? op.line.toList = some op := by
  have hblank : ∀ c ∈ [' ', ' '], c = ' ' := by simp
  have hnone : ∀ c ∈ ([] : List Char), c = ' ' := by simp
  have hopen : '(' ∉ op.name.toList := h.name.not_mem rfl
  have hname := strip_eq [' ', ' '] [] hblank hnone h.name.1 (h.name.not_mem rfl)
  have hresult := strip_eq [' '] [] (fun c hc => List.mem_singleton.mp hc) hnone h.result.1
    (h.result.2 _ (by decide))
  have hpairs := readPairs?_between (by simpa [ApiOperation.argumentWords] using harguments)
    (fun p hp => h.argumentWords_between hp) hnone hnone
  have hcolon := cut?_append (List.not_mem_nil (a := ':')) (' ' :: op.result.toList)
  rw [List.nil_append] at hcolon
  rw [List.append_nil] at hname hresult
  rw [List.append_nil, List.nil_append] at hpairs
  unfold readOperation?
  rw [op.toList_line, if_neg harguments, cut?_append (by simpa using hopen)]
  dsimp only
  rw [cut?_append (h.not_mem_arguments (by decide))]
  simp only [Option.bind_eq_bind, Option.bind_some, hpairs, hcolon]
  rw [hname, op.map_argumentWords, show ' ' :: op.result.toList = [' '] ++ op.result.toList from rfl,
    hresult, String.ofList_toList, String.ofList_toList]
  rfl

/-- **An operation is read back from its line.** -/
theorem readOperation?_line : readOperation? op.line.toList = some op := by
  by_cases harguments : op.arguments = []
  · exact readOperation?_of_eq_nil h harguments
  · exact readOperation?_of_ne_nil h harguments

end Plain

/-! ## 3. The schema -/

/-- The lines of operations are read back. -/
theorem mapM_readOperation? {ops : List ApiOperation} (h : ∀ op ∈ ops, op.IsPlain) :
    (ops.map fun op => op.line.toList).mapM readOperation? = some ops := by
  have hread : ops.mapM (fun op => readOperation? op.line.toList) = some (ops.map id) :=
    mapM_eq_pure_map fun op hop => readOperation?_line (h op hop)
  rw [List.map_id] at hread
  rw [List.mapM_map]
  exact hread

/-- The blocks that declare the operations. -/
def operationBlocks (typeName : String) : List Block :=
  [⟨"type Query".toList, (queries typeName).map fun op => op.line.toList⟩,
    ⟨"type Mutation".toList, (mutations typeName).map fun op => op.line.toList⟩]

theorem ApiOperation.line_ne_brace (op : ApiOperation) : op.line.toList ≠ ['\x7d'] := by
  unfold ApiOperation.line
  intro h
  simp at h

theorem ApiOperation.lines_ne_brace (ops : List ApiOperation) :
    ∀ l ∈ ops.map (·.line), l.toList ≠ ['\x7d'] := by
  intro l hl
  obtain ⟨op, _, rfl⟩ := List.mem_map.mp hl
  exact op.line_ne_brace

section Accepted

variable {typeName : String} (h : typeNameFault? typeName = none)
include h

/-! What the operations take and give, and the names they have. -/

theorem isTypeText_typeName : IsTypeText typeName.toList := by
  have := isTypeText_of_isWord (isWord_of_typeNameFault? h) [] [] (by simp) (by simp)
  simpa using this

theorem isTypeText_list : IsTypeText ("[" ++ typeName ++ "!]!").toList := by
  have := isTypeText_of_isWord (isWord_of_typeNameFault? h) ['['] ['!', ']', '!'] (by simp)
    (by simp)
  simpa using this

theorem isTypeText_input : IsTypeText (typeName ++ "Input!").toList := by
  have hwords := isWord_append (isWord_of_typeNameFault? h) (by decide : IsWord "Input".toList)
  have := isTypeText_of_isWord hwords [] ['!'] (by simp) (by simp)
  simpa using this

theorem isWord_valueName : IsWord (valueName typeName).toList :=
  isWord_of_typeNameFault? (typeNameFault?_valueName h)

theorem isWord_collectionName : IsWord (collectionName typeName).toList := by
  unfold collectionName plural
  rw [String.toList_append]
  exact isWord_append (isWord_valueName h) (by decide)

theorem isWord_verb_append {verb : String} (hverb : IsWord verb.toList) :
    IsWord (verb ++ typeName).toList := by
  rw [String.toList_append]
  exact isWord_append hverb (isWord_of_typeNameFault? h)

/-- Both arguments that operations take are plain. -/
theorem isPlain_arguments : ∀ a ∈ [("id", "ID!"), ("input", typeName ++ "Input!")],
    IsWord a.1.toList ∧ IsTypeText a.2.toList := by
  intro a ha
  rcases List.mem_cons.mp ha with rfl | ha
  · exact ⟨by decide, by decide⟩
  · rw [List.mem_singleton.mp ha]
    exact ⟨(by decide : IsWord "input".toList), isTypeText_input h⟩

theorem isPlain_queries : ∀ op ∈ queries typeName, op.IsPlain := by
  intro op hop
  simp only [queries, List.mem_cons, List.not_mem_nil, or_false] at hop
  rcases hop with rfl | rfl
  · exact ⟨isWord_collectionName h, fun a ha => (by cases ha), isTypeText_list h⟩
  · exact ⟨isWord_valueName h, fun a ha => isPlain_arguments h a (by simp_all),
      isTypeText_typeName h⟩

theorem isPlain_mutations : ∀ op ∈ mutations typeName, op.IsPlain := by
  intro op hop
  simp only [mutations, List.mem_cons, List.not_mem_nil, or_false] at hop
  have hverb : ∀ verb ∈ ["create", "update", "delete"], IsWord (verb ++ typeName).toList :=
    fun verb hmem => isWord_verb_append h ((by decide :
      ∀ verb ∈ ["create", "update", "delete"], IsWord verb.toList) verb hmem)
  rcases hop with rfl | rfl | rfl
  · exact ⟨hverb _ (by simp), fun a ha => isPlain_arguments h a (by simp_all),
      isTypeText_typeName h⟩
  · exact ⟨hverb _ (by simp), isPlain_arguments h, isTypeText_typeName h⟩
  · exact ⟨hverb _ (by simp), fun a ha => isPlain_arguments h a (by simp_all),
      (by decide : IsTypeText "Boolean!".toList)⟩

/-- The names of the operations and what they take and give are plain. -/
theorem isPlain_operations :
    (∀ op ∈ queries typeName, op.IsPlain) ∧ ∀ op ∈ mutations typeName, op.IsPlain :=
  ⟨isPlain_queries h, isPlain_mutations h⟩

theorem textLines_operations :
    textLines (endLines (operationLines typeName)) =
      (operationLines typeName).map (·.toList) ++ [[]] := by
  obtain ⟨hqueries, hmutations⟩ := isPlain_operations h
  refine textLines_endLines fun l hl => ?_
  simp only [operationLines, braced, List.mem_append, List.mem_cons, List.mem_map,
    List.not_mem_nil, or_false] at hl
  rcases hl with (((rfl | ⟨op, hop, rfl⟩) | rfl) | rfl) | (rfl | ⟨op, hop, rfl⟩) | rfl
  · decide
  · exact (hqueries op hop).newline_not_mem_line
  · decide
  · decide
  · decide
  · exact (hmutations op hop).newline_not_mem_line
  · decide

theorem readBlocks_operations :
    readBlocks none (textLines (endLines (operationLines typeName))) =
      operationBlocks typeName := by
  have hlines : (operationLines typeName).map (·.toList) ++ [[]] =
      (braced "type Query" ((queries typeName).map (·.line))).map (·.toList) ++
        [] :: ((braced "type Mutation" ((mutations typeName).map (·.line))).map (·.toList) ++
          [[]]) := by
    simp [operationLines]
  rw [textLines_operations h, hlines, readBlocks_braced _ (ApiOperation.lines_ne_brace _),
    readBlocks_empty,
    readBlocks_braced _ (ApiOperation.lines_ne_brace _), readBlocks_empty, readBlocks, List.map_map,
    List.map_map]
  rfl

/-- **The operations are the last blocks of a schema**, whatever the model. -/
theorem exists_readBlocks_apiSchema (model : FieldModel) :
    ∃ before, readBlocks none (textLines (apiSchema typeName model)) =
      before ++ operationBlocks typeName := by
  have hbefore : ∃ ls, textLines (apiSchema typeName model) =
      ls ++ ['\x7d'] :: ([] :: textLines (endLines (operationLines typeName))) := by
    refine ⟨textLines (objectType typeName model) ++ [] ::
      (textLines ("input " ++ typeName ++ "Input" ++ " \x7b") ++
        (model.inputFields.map (·.line)).flatMap textLines), ?_⟩
    rw [textLines_apiSchema]
    unfold inputType inputTypeLines
    rw [textLines_braced_flatMap]
    simp
  obtain ⟨ls, hls⟩ := hbefore
  refine ⟨readBlocks none (ls ++ [['\x7d']]), ?_⟩
  rw [hls, readBlocks_append_brace, readBlocks_empty, readBlocks_operations h]

/-- The blocks of a schema for a model whose names hold no line break. -/
theorem readBlocks_apiSchema {model : FieldModel}
    (hmodel : ∀ f ∈ model.values, '\n' ∉ f.name.toList) :
    readBlocks none (textLines (apiSchema typeName model)) =
      ⟨("type " ++ typeName).toList, (identityField :: model.objectFields ++ timestampFields).map
          fun f => f.line.toList⟩ ::
        ⟨("input " ++ typeName ++ "Input").toList, model.inputFields.map fun f => f.line.toList⟩ ::
          operationBlocks typeName := by
  have hname : '\n' ∉ typeName.toList := (isWord_of_typeNameFault? h).not_mem rfl
  have hshown : ∀ f ∈ model.values, '\n' ∉ f.toApi.line.toList := fun f hf =>
    ApiField.newline_not_mem_line (hmodel f hf) f.type.isWord_api
  have hfixed : ∀ f ∈ identityField :: timestampFields, '\n' ∉ f.line.toList := by decide
  have hobject : ∀ l ∈ (identityField :: model.objectFields ++ timestampFields).map (·.line),
      '\n' ∉ l.toList := by
    intro l hl
    obtain ⟨f, hf, rfl⟩ := List.mem_map.mp hl
    rcases List.mem_append.mp hf with hf | hf
    · rcases List.mem_cons.mp hf with rfl | hf
      · exact hfixed _ List.mem_cons_self
      · obtain ⟨e, he, rfl⟩ := List.mem_map.mp hf
        exact hshown e (List.mem_of_mem_filter he)
    · exact hfixed f (List.mem_cons_of_mem _ hf)
  have hinput : ∀ l ∈ model.inputFields.map (·.line), '\n' ∉ l.toList := by
    intro l hl
    obtain ⟨f, hf, rfl⟩ := List.mem_map.mp hl
    obtain ⟨e, he, rfl⟩ := List.mem_map.mp hf
    exact hshown e (List.mem_of_mem_filter he)
  rw [textLines_apiSchema]
  unfold objectType objectTypeLines inputType inputTypeLines
  rw [textLines_braced (by simp [hname]) hobject, textLines_braced (by simp [hname]) hinput,
    readBlocks_braced _ (ApiField.lines_ne_brace _), readBlocks_empty,
    readBlocks_braced _ (ApiField.lines_ne_brace _), readBlocks_empty, readBlocks_operations h,
    List.map_map, List.map_map]
  rfl

end Accepted

/-! ## 4. The fields of a type -/

/-- The fields of the last block of a schema that is headed by a type. -/
def lastFields? (name schema : String) : Option (List ApiOperation) :=
  (typeBlocks name schema).getLast?.bind fun block => block.lines.mapM readOperation?

/-- A field of a type as an operation without arguments. -/
def ApiField.toOperation (f : ApiField) : ApiOperation :=
  ⟨f.name, [], f.type ++ if f.required then "!" else ""⟩

theorem ApiField.line_toOperation (f : ApiField) : f.toOperation.line = f.line := by
  refine String.toList_inj.mp ?_
  unfold ApiOperation.line ApiField.toOperation ApiOperation.argumentText ApiField.line
  simp

theorem ApiField.IsPlain.toOperation {f : ApiField} (hf : f.IsPlain) : f.toOperation.IsPlain := by
  refine ⟨hf.1, fun a ha => (by cases ha), ?_⟩
  have hmark : ∀ c ∈ (if f.required then "!" else "").toList, c ∈ ['!', ']'] := by
    cases f.required <;> simp
  have htype := isTypeText_of_isWord hf.2 [] _ (by simp) hmark
  unfold ApiField.toOperation
  simpa using htype

/-- What the object type of a model declares. -/
def FieldModel.declared (model : FieldModel) : List ApiOperation :=
  (identityField :: model.objectFields ++ timestampFields).map (·.toOperation)

theorem FieldModel.isPlain_declared {model : FieldModel}
    (hmodel : ∀ f ∈ model.values, IsWord f.name.toList) : ∀ op ∈ model.declared, op.IsPlain := by
  have hfixed : ∀ f ∈ identityField :: timestampFields, f.IsPlain := by
    unfold ApiField.IsPlain
    decide
  intro op hop
  obtain ⟨f, hf, rfl⟩ := List.mem_map.mp hop
  refine ApiField.IsPlain.toOperation ?_
  rcases List.mem_append.mp hf with hf | hf
  · rcases List.mem_cons.mp hf with rfl | hf
    · exact hfixed _ List.mem_cons_self
    · obtain ⟨e, he, rfl⟩ := List.mem_map.mp hf
      exact ⟨hmodel e (List.mem_of_mem_filter he), e.type.isWord_api⟩
  · exact hfixed f (List.mem_cons_of_mem _ hf)

theorem head_ne_of_ne {typeName name : String} (h : typeName ≠ name) :
    ("type " ++ typeName).toList ≠ ("type " ++ name).toList :=
  fun heq => h ((String.append_right_inj "type ").mp (String.toList_inj.mp heq))

/-- **The fields of a type of operations**, in a schema for any model: its last block declares the
    operations, and no other block is headed by it unless the entity has its name. -/
theorem fields_of_operations {typeName name : String} {ops : List ApiOperation}
    (h : typeNameFault? typeName = none) (hplain : ∀ op ∈ ops, op.IsPlain)
    (hblocks : (operationBlocks typeName).filter (·.head = ("type " ++ name).toList) =
      [⟨("type " ++ name).toList, ops.map fun op => op.line.toList⟩]) (model : FieldModel) :
    lastFields? name (apiSchema typeName model) = some ops ∧
    ((∀ f ∈ model.values, '\n' ∉ f.name.toList) → typeName ≠ name →
      typeFields? name (apiSchema typeName model) = some ops) ∧
    ((∀ f ∈ model.values, IsWord f.name.toList) → typeName = name →
      typeFields? name (apiSchema typeName model) = some (model.declared ++ ops)) := by
  refine ⟨?_, fun hmodel hne => ?_, fun hmodel heq => ?_⟩
  · obtain ⟨before, hbefore⟩ := exists_readBlocks_apiSchema h model
    unfold lastFields? typeBlocks
    rw [hbefore, List.filter_append, hblocks, List.getLast?_append]
    exact mapM_readOperation? hplain
  · unfold typeFields? typeBlocks
    rw [readBlocks_apiSchema h hmodel, List.filter_cons_of_neg (by simpa using head_ne_of_ne hne),
      List.filter_cons_of_neg (by simp), hblocks,
      List.flatMap_singleton]
    exact mapM_readOperation? hplain
  · have hnewline : ∀ f ∈ model.values, '\n' ∉ f.name.toList := fun f hf =>
      (hmodel f hf).not_mem rfl
    have hlines : (identityField :: model.objectFields ++ timestampFields).map
        (fun f => f.line.toList) = model.declared.map fun op => op.line.toList := by
      unfold FieldModel.declared
      rw [List.map_map]
      exact List.map_congr_left fun f _ => congrArg String.toList f.line_toOperation.symm
    unfold typeFields? typeBlocks
    rw [readBlocks_apiSchema h hnewline, List.filter_cons_of_pos (by simp [heq]),
      List.filter_cons_of_neg (by simp), hblocks,
      List.flatMap_cons, List.flatMap_singleton]
    dsimp only
    rw [hlines, ← List.map_append]
    refine mapM_readOperation? fun op hop => ?_
    rcases List.mem_append.mp hop with hop | hop
    · exact FieldModel.isPlain_declared hmodel op hop
    · exact hplain op hop

theorem filter_operationBlocks_query (typeName : String) :
    (operationBlocks typeName).filter (·.head = ("type " ++ "Query").toList) =
      [⟨("type " ++ "Query").toList, (queries typeName).map fun op => op.line.toList⟩] := by
  rfl

theorem filter_operationBlocks_mutation (typeName : String) :
    (operationBlocks typeName).filter (·.head = ("type " ++ "Mutation").toList) =
      [⟨("type " ++ "Mutation").toList, (mutations typeName).map fun op => op.line.toList⟩] := by
  rfl

end SampleSchema
