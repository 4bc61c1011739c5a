import SampleSchema.Artifact.Resolvers
import SampleSchema.Proofs.Naming
import SampleSchema.Proofs.Script.Syntax

/-!
# What the names in a resolver module stand for

A resolver module imports the model under the name of the type, and each of its functions calls a
method of it. But a function has names of its own, for its parameters and for what it has found, and
two functions construct an error, which is a global. So a type name can be captured: a function that
binds it does not call the model, and an imported `Error` is not the global one.

The text of the module is read as syntax (`tokens_resolverModule`), so it is known which names each
function binds (`usages_resolverSyntax`). `resolver_names_resolved` says for every accepted type
name what its receivers and errors stand for: the import and the global, exactly if the name is none
of the five that the module uses itself. `model_captured` are two names for which it goes wrong.
-/

namespace SampleSchema

open Script

/-! ## 1. The module as syntax -/

/-- Where a resolver module imports the model from, seen from its own directory. -/
def modelSource (typeName : String) : String := "../../models/" ++ typeName ++ ".js"

/-- A call of a method of the model. -/
def modelCall (typeName method : String) (arguments : List Expression) : Expression :=
  .call (.member (.name typeName) method) arguments

/-- The plain data of documents that are looked up. -/
def plainData (found : Expression) : Expression := .call (.member found "lean") []

/-- Gives back a document, or fails if there is none. -/
def foundStatements (typeName : String) : List Statement :=
  [.throwIf (.negated (.name "result"))
      (.construct (.name "Error") [.quoted (typeName ++ " not found")]),
    .giveBack (.name "result")]

/-- The parameters of a function: none, or the parent value and the arguments. -/
def parametersFor (arguments : List String) : List Pattern :=
  if arguments = [] then [] else [.name "_", .fields arguments]

/-- The functions that look up documents. -/
def queryFunctions (typeName : String) : List (String × Arrow) :=
  [(collectionName typeName,
      ⟨parametersFor [], .value (plainData (modelCall typeName "find" []))⟩),
    (valueName typeName, ⟨parametersFor ["id"],
      .block (.declare "result"
        (.awaited (plainData (modelCall typeName "findById" [.name "id"]))) ::
          foundStatements typeName)⟩)]

/-- The functions that change documents. -/
def mutationFunctions (typeName : String) : List (String × Arrow) :=
  [("create" ++ typeName,
      ⟨parametersFor ["input"], .value (modelCall typeName "create" [.name "input"])⟩),
    ("update" ++ typeName, ⟨parametersFor ["id", "input"],
      .block (.declare "result" (.awaited (modelCall typeName "findByIdAndUpdate"
        [.name "id", .name "input", .options [("new", "true"), ("lean", "true")]])) ::
          foundStatements typeName)⟩),
    ("delete" ++ typeName, ⟨parametersFor ["id"],
      .block [.declare "result" (.awaited (modelCall typeName "findByIdAndDelete" [.name "id"])),
        .giveBack (.negated (.negated (.name "result")))]⟩)]

/-- **The syntax of a resolver module.** -/
def resolverSyntax (typeName : String) : Script.Module where
  imported := typeName
  source := modelSource typeName
  objects := [("Query", queryFunctions typeName), ("Mutation", mutationFunctions typeName)]

/-! ## 2. Reading the module -/

/-- The code of a function up to its body. -/
def headTokens (arguments : List String) : List Token :=
  .mark ':' :: .word "async" :: .mark '(' :: separated ((parametersFor arguments).map (·.tokens)) ++
    [.mark ')', .mark '=', .mark '>']

/-- The arguments of the operations, as they occur. -/
def argumentLists : List (List String) := [[], ["id"], ["input"], ["id", "input"]]

theorem reads_parameters : ∀ arguments ∈ argumentLists,
    Reads .between (": async (" ++ (Resolver.mk "" arguments (.block [])).parameterText ++ ") => ")
      (headTokens arguments) .between := by decide

section Resolver

variable {name : String} {arguments : List String} (hname : IsName name)
  (harguments : arguments ∈ argumentLists)
include hname harguments

/-- **The head of a resolver is read** as its name and its parameters. -/
theorem reads_head (body : ResolverBody) :
    Reads .between (Resolver.mk name arguments body).head (.word name :: headTokens arguments)
      .between := by
  let parameters := (Resolver.mk name arguments body).parameterText
  have hhead : (Resolver.mk name arguments body).head =
      "    " ++ name ++ (": async (" ++ parameters ++ ") => ") := by
    unfold Resolver.head
    simp only [String.append_assoc, parameters]
  have hapart : BeginsApart (": async (" ++ parameters ++ ") => ") :=
    .append (.append (by decide) _) _
  rw [hhead]
  exact reads_spliced hname (by decide : Reads .between "    " [] .between)
    (reads_parameters arguments harguments) hapart

/-- A resolver of one expression. -/
theorem written_expression {text : String} {e : Expression}
    (h : Reads .between text e.tokens .between) :
    Written (Resolver.mk name arguments (.expression text)).lines
      (memberTokens (name, ⟨parametersFor arguments, .value e⟩)) := by
  have hcomma : Reads .between "," [.mark ','] .between := by decide
  have hline := ((reads_head hname harguments (.expression text)).append h).append hcomma
  have hcode : memberTokens (name, ⟨parametersFor arguments, .value e⟩) =
      .word name :: headTokens arguments ++ e.tokens ++ [.mark ','] := by
    simp [memberTokens, Arrow.tokens, Body.tokens, headTokens]
  rw [hcode]
  exact written_line hline

/-- A resolver with a block. -/
theorem written_block {ls : List String} {statements : List Statement}
    (h : Written ls (statements.flatMap (·.tokens))) :
    Written (Resolver.mk name arguments (.block ls)).lines
      (memberTokens (name, ⟨parametersFor arguments, .block statements⟩)) := by
  have hopen : Reads .between "\x7b" [.mark '\x7b'] .between := by decide
  have hclose : Reads .between "    \x7d," [.mark '\x7d', .mark ','] .between := by decide
  have hlines := ((written_line ((reads_head hname harguments (.block ls)).append hopen)).append
    h).append (written_line hclose)
  have hcode : memberTokens (name, ⟨parametersFor arguments, .block statements⟩) =
      .word name :: headTokens arguments ++ [.mark '{'] ++ statements.flatMap (·.tokens) ++
        [.mark '}', .mark ','] := by
    simp [memberTokens, Arrow.tokens, Body.tokens, headTokens]
  rw [hcode]
  exact hlines

end Resolver

/-- A group of resolvers is an object of functions. -/
theorem written_group {name : String} {rs : List Resolver} {ms : List (String × Arrow)}
    (hname : IsName name) (h : List.Forall₂ (fun r m => Written r.lines (memberTokens m)) rs ms) :
    Written (resolverGroup name rs) (objectTokens (name, ms)) := by
  have hopen : Reads .between ("  " ++ name ++ ": \x7b") [.word name, .mark ':', .mark '\x7b']
      .between :=
    reads_spliced hname (by decide : Reads .between "  " [] .between)
      (by decide : Reads .between ": \x7b" [.mark ':', .mark '\x7b'] .between) (by decide)
  have hclose : Reads .between "  \x7d," [.mark '\x7d', .mark ','] .between := by decide
  have hmembers : Written (rs.flatMap (·.lines)) (ms.flatMap memberTokens) := by
    induction h with
    | nil => exact written_nil
    | cons hfirst _ ih => exact hfirst.append ih
  exact ((written_line hopen).append hmembers).append (written_line hclose)

section Accepted

variable {typeName : String} (h : typeNameFault? typeName = none)
include h

theorem isName_of_mem_apiNames {name : String} (hname : name ∈ apiNames typeName) : IsName name :=
  isName_of_isIdentifier (isIdentifier_of_mem_apiNames h name hname)

theorem not_mem_quote : '\'' ∉ typeName.toList := fun hmem => by
  have hpart := isIdentifierPart_of_mem h hmem
  revert hpart
  decide

theorem reads_importLine :
    Reads .between (importLine typeName) (importTokens typeName (modelSource typeName))
      .between := by
  have hname : IsName typeName := isName_of_mem_apiNames h List.mem_cons_self
  have hquote : '\'' ∉ (modelSource typeName).toList := by
    unfold modelSource
    simp [not_mem_quote h]
  have htext : importLine typeName =
      "import " ++ typeName ++ (" from " ++ ("'" ++ modelSource typeName ++ "'") ++ ";") := by
    refine String.toList_inj.mp ?_
    unfold importLine modelSource
    simp
  have hapart : BeginsApart (" from " ++ ("'" ++ modelSource typeName ++ "'") ++ ";") :=
    .append (.append (by decide) _) _
  have hfrom : Reads .between " from " [.word "from"] .between := by decide
  have hend : Reads .between ";" [.mark ';'] .between := by decide
  rw [htext]
  exact reads_spliced hname (by decide : Reads .between "import " [.word "import"] .between)
    ((hfrom.append (reads_quoted hquote)).append hend) hapart

theorem written_foundOrFail :
    Written (foundOrFail typeName) ((foundStatements typeName).flatMap (·.tokens)) := by
  have hquote : '\'' ∉ (typeName ++ " not found").toList := by simp [not_mem_quote h]
  have htext : "      if (!result) throw new Error('" ++ typeName ++ " not found');" =
      "      if (!result) throw new Error(" ++ ("'" ++ (typeName ++ " not found") ++ "'") ++
        ");" := by
    refine String.toList_inj.mp ?_
    simp
  have hbefore : Reads .between "      if (!result) throw new Error("
      [.word "if", .mark '(', .mark '!', .word "result", .mark ')', .word "throw", .word "new",
        .word "Error", .mark '('] .between := by decide
  have hend : Reads .between ");" [.mark ')', .mark ';'] .between := by decide
  have hreturn : Reads .between "      return result;"
      [.word "return", .word "result", .mark ';'] .between := by decide
  unfold foundOrFail
  rw [htext]
  exact .cons ((hbefore.append (reads_quoted hquote)).append hend) (written_line hreturn)

/-- A line that calls a method of the model. -/
theorem reads_call {before after : String} {ts us : List Token}
    (hbefore : Reads .between before ts .between) (hafter : Reads .between after us .between)
    (hapart : BeginsApart after) :
    Reads .between (before ++ typeName ++ after) (ts ++ .word typeName :: us) .between :=
  reads_spliced (isName_of_mem_apiNames h List.mem_cons_self) hbefore hafter hapart

omit h in
/-- The line that waits for what the model gives, up to the call. -/
theorem reads_declaration : Reads .between "      const result = await "
    [.word "const", .word "result", .mark '=', .word "await"] .between := by decide

theorem written_queryResolvers :
    List.Forall₂ (fun r m => Written r.lines (memberTokens m)) (queryResolvers typeName)
      (queryFunctions typeName) := by
  have hname : ∀ name ∈ apiNames typeName, IsName name := fun _ => isName_of_mem_apiNames h
  refine .cons ?list (.cons ?one .nil)
  case list =>
    have hcall : Reads .between ".find().lean()"
        [.mark '.', .word "find", .mark '(', .mark ')', .mark '.', .word "lean", .mark '(',
          .mark ')'] .between := by decide
    exact written_expression (hname _ (by simp [apiNames])) (by decide)
      (reads_front (hname _ (by simp [apiNames])) hcall (by decide))
  case one =>
    have hcall : Reads .between ".findById(id).lean();"
        [.mark '.', .word "findById", .mark '(', .word "id", .mark ')', .mark '.', .word "lean",
          .mark '(', .mark ')', .mark ';'] .between := by decide
    have hlines := Written.cons (reads_call h reads_declaration hcall (by decide))
      (written_foundOrFail h)
    refine written_block (hname _ (by simp [apiNames])) (by decide) ?_
    simpa [plainData, modelCall, Statement.tokens, Expression.tokens, codes, separated] using hlines

theorem written_mutationResolvers :
    List.Forall₂ (fun r m => Written r.lines (memberTokens m)) (mutationResolvers typeName)
      (mutationFunctions typeName) := by
  have hname : ∀ name ∈ apiNames typeName, IsName name := fun _ => isName_of_mem_apiNames h
  refine .cons ?create (.cons ?update (.cons ?delete .nil))
  case create =>
    have hcall : Reads .between ".create(input)"
        [.mark '.', .word "create", .mark '(', .word "input", .mark ')'] .between := by decide
    exact written_expression (hname _ (by simp [apiNames])) (by decide)
      (reads_front (hname _ (by simp [apiNames])) hcall (by decide))
  case update =>
    have hcall : Reads .between ".findByIdAndUpdate("
        [.mark '.', .word "findByIdAndUpdate", .mark '('] .between := by decide
    have harguments : Written ["        id,", "        input,",
        "        \x7b new: true, lean: true \x7d", "      );"]
        [.word "id", .mark ',', .word "input", .mark ',', .mark '\x7b', .word "new", .mark ':',
          .word "true", .mark ',', .word "lean", .mark ':', .word "true", .mark '\x7d', .mark ')',
          .mark ';'] := by decide
    have hlines := (Written.cons (reads_call h reads_declaration hcall (by decide))
      harguments).append (written_foundOrFail h)
    refine written_block (hname _ (by simp [apiNames])) (by decide) ?_
    simpa [modelCall, Statement.tokens, Expression.tokens, codes, separated] using hlines
  case delete =>
    have hcall : Reads .between ".findByIdAndDelete(id);"
        [.mark '.', .word "findByIdAndDelete", .mark '(', .word "id", .mark ')', .mark ';']
          .between := by decide
    have hreturn : Reads .between "      return !!result;"
        [.word "return", .mark '!', .mark '!', .word "result", .mark ';'] .between := by decide
    have hlines := Written.cons (reads_call h reads_declaration hcall (by decide))
      (written_line hreturn)
    refine written_block (hname _ (by simp [apiNames])) (by decide) ?_
    simpa [modelCall, Statement.tokens, Expression.tokens, codes, separated] using hlines

/-- **The text of a resolver module is the code of its syntax.** -/
theorem tokens_resolverModule :
    tokens (resolverModule typeName) = (resolverSyntax typeName).tokens := by
  have hopen : Written ["", "export default \x7b"]
      [.word "export", .word "default", .mark '\x7b'] := by decide
  have hclose : Written ["\x7d;"] [.mark '\x7d', .mark ';'] := by decide
  have hquery : IsName "Query" := by decide
  have hmutation : IsName "Mutation" := by decide
  have hlines := (((Written.cons (reads_importLine h) hopen).append
    (written_group hquery (written_queryResolvers h))).append
      (written_group hmutation (written_mutationResolvers h))).append hclose
  have hcode : importTokens typeName (modelSource typeName) ++
      [.word "export", .word "default", .mark '\x7b'] ++
        objectTokens ("Query", queryFunctions typeName) ++
          objectTokens ("Mutation", mutationFunctions typeName) ++ [.mark '\x7d', .mark ';'] =
      (resolverSyntax typeName).tokens := by
    simp [Script.Module.tokens, resolverSyntax]
  rw [← hcode]
  exact Reads.tokens_eq hlines

end Accepted

/-! ## 3. What the names stand for -/

/-- **What each function of a resolver module uses and binds.** -/
theorem usages_resolverSyntax (typeName : String) :
    (resolverSyntax typeName).receivers.map (fun u => ((u.name, u.use), u.function.bound)) =
      [((typeName, .receiver "find"), []),
        ((typeName, .receiver "findById"), ["_", "id", "result"]),
        ((typeName, .receiver "create"), ["_", "input"]),
        ((typeName, .receiver "findByIdAndUpdate"), ["_", "id", "input", "result"]),
        ((typeName, .receiver "findByIdAndDelete"), ["_", "id", "result"])] ∧
    (resolverSyntax typeName).constructed.map (fun u => (u.name, u.function.bound)) =
      [("Error", ["_", "id", "result"]), ("Error", ["_", "id", "input", "result"])] :=
  ⟨rfl, rfl⟩

/-- **What the names in a resolver module stand for**, for every accepted type name. The text is the
    code of a module that imports the type name. It uses methods of that name only, one in each of
    its five functions, of which each binds the names of its parameters and what it has found; so
    the import is called exactly if the function does not bind the type name, and everywhere if the
    type name is none of the four that are bound at all. What the two functions that look for a
    document construct is the global `Error`, unless the type is named so. -/
theorem resolver_names_resolved {typeName : String} (h : typeNameFault? typeName = none) :
    let m := resolverSyntax typeName
    tokens (resolverModule typeName) = m.tokens ∧ m.imported = typeName ∧
    m.receivers.map (fun u => ((u.name, u.use), u.function.bound)) =
      [((typeName, .receiver "find"), []),
        ((typeName, .receiver "findById"), ["_", "id", "result"]),
        ((typeName, .receiver "create"), ["_", "input"]),
        ((typeName, .receiver "findByIdAndUpdate"), ["_", "id", "input", "result"]),
        ((typeName, .receiver "findByIdAndDelete"), ["_", "id", "result"])] ∧
    m.constructed.map (fun u => (u.name, u.function.bound)) =
      [("Error", ["_", "id", "result"]), ("Error", ["_", "id", "input", "result"])] ∧
    (∀ u ∈ m.receivers, m.bindingOf u = .imported ↔ typeName ∉ u.function.bound) ∧
    ((∀ u ∈ m.receivers, m.bindingOf u = .imported) ↔
      typeName ∉ ["_", "id", "input", "result"]) ∧
    ((∀ u ∈ m.constructed, m.bindingOf u = .global) ↔ typeName ≠ "Error") := by
  intro m
  obtain ⟨hreceivers, hconstructed⟩ := usages_resolverSyntax typeName
  have hname : ∀ u ∈ m.receivers, u.name = typeName := by
    have hall : ∀ x ∈ m.receivers.map (fun u => ((u.name, u.use), u.function.bound)),
        x.1.1 = typeName := by
      rw [hreceivers]
      simp
    exact fun u hu => hall _ (List.mem_map_of_mem hu)
  have hbinding : ∀ u ∈ m.receivers, m.bindingOf u = .imported ↔ typeName ∉ u.function.bound := by
    intro u hu
    rw [Script.Module.bindingOf_eq_imported_iff, hname u hu]
    exact and_iff_left rfl
  refine ⟨tokens_resolverModule h, rfl, hreceivers, hconstructed, hbinding, ?_, ?_⟩
  · -- the function that updates binds all four names
    have hbounds : m.receivers.map (·.function.bound) =
        [[], ["_", "id", "result"], ["_", "input"], ["_", "id", "input", "result"],
          ["_", "id", "result"]] := rfl
    have hmost : ["_", "id", "input", "result"] ∈ m.receivers.map (·.function.bound) := by
      rw [hbounds]
      decide
    have hall : ∀ names ∈ m.receivers.map (·.function.bound),
        names ⊆ ["_", "id", "input", "result"] := by
      rw [hbounds]
      decide
    constructor
    · intro himported
      obtain ⟨u, hu, hbound⟩ := List.mem_map.mp hmost
      rw [← hbound]
      exact (hbinding u hu).mp (himported u hu)
    · intro hfree u hu
      exact (hbinding u hu).mpr fun hmem => hfree (hall _ (List.mem_map_of_mem hu) hmem)
  · have hglobal : (∀ u ∈ m.constructed, m.bindingOf u = .global) ↔
        ∀ x ∈ m.constructed.map (fun u => (u.name, u.function.bound)),
          x.1 ∉ x.2 ∧ x.1 ≠ typeName := by
      rw [List.forall_mem_map]
      exact forall₂_congr fun u _ => m.bindingOf_eq_global_iff u
    rw [hglobal, hconstructed]
    simp [eq_comm]

theorem resolver_names_resolved_order :
    typeNameFault? "Order" = none ∧
    tokens (resolverModule "Order") = (resolverSyntax "Order").tokens ∧
    (∀ u ∈ (resolverSyntax "Order").receivers,
      (resolverSyntax "Order").bindingOf u = .imported) ∧
    ∀ u ∈ (resolverSyntax "Order").constructed, (resolverSyntax "Order").bindingOf u = .global := by
  have hname : typeNameFault? "Order" = none := by decide
  obtain ⟨htext, _, _, _, _, hreceivers, hconstructed⟩ := resolver_names_resolved hname
  exact ⟨hname, htext, hreceivers.mpr (by decide), hconstructed.mpr (by decide)⟩

/-- **Accepted names that are captured.** In the resolvers of a type `id`, what is looked up is
    looked up in an argument of the request; and a file `error.json` suggests a type for which the
    errors that are thrown are documents of it. -/
theorem model_captured :
    (typeNameFault? "id" = none ∧
      tokens (resolverModule "id") = (resolverSyntax "id").tokens ∧
      ∃ u ∈ (resolverSyntax "id").receivers, u.name = "id" ∧ u.use = .receiver "findById" ∧
        (resolverSyntax "id").bindingOf u = .parameter) ∧
    typeNameFault? "Error" = none ∧ derivedTypeName (.ofText "error.json") = "Error" ∧
      tokens (resolverModule "Error") = (resolverSyntax "Error").tokens ∧
      (resolverSyntax "Error").constructed ≠ [] ∧
      ∀ u ∈ (resolverSyntax "Error").constructed,
        (resolverSyntax "Error").bindingOf u = .imported := by
  have hid : typeNameFault? "id" = none := by decide
  have herror : typeNameFault? "Error" = none := by decide
  refine ⟨⟨hid, tokens_resolverModule hid, by decide⟩, herror, by decide,
    tokens_resolverModule herror, ?_, by decide⟩
  exact List.cons_ne_nil _ _

end SampleSchema
