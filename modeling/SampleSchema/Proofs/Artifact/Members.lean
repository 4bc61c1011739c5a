import Mathlib.Data.List.Nodup
import SampleSchema.Artifact.Resolvers
import SampleSchema.Proofs.Artifact.Operations

/-!
# The operations of the API and their resolvers

The API schema declares the operations on a type, the resolver module answers them, and the two are
generated apart. A module is read by the DEPTH of its braces: what begins one level deep is an
object, what begins two levels deep a member of it (`readMembers`), and a member that takes a
request names in braces what it takes out of it (`readMember?_head`).

The main statement, `operations_read_back`, is that the two texts agree for every accepted type name
and whatever the model. What it says of all fields of a type leaves out the names `Query` and
`Mutation`: they are accepted, and then the object type of the entity is a second block of that
name, so the fields are those of both (`apiSchema_declares_query_twice`).
-/

namespace SampleSchema

/-! ## 1. Members -/

/-- The depth of braces behind a line. -/
def depthAfter (depth : Nat) (line : List Char) : Nat := depth + line.count '\x7b' - line.count '\x7d'

/-- The name before a colon. -/
def nameOf (line : List Char) : List Char := ((readNamed? line).map (·.1)).getD []

/-- The first lines of the members of the objects one level deep, each with the name of its
    object, where some lines have been read already. -/
def readMembers : Nat → List Char → List (List Char) → List (List Char × List Char)
  | _, _, [] => []
  | depth, object, line :: rest =>
    let after := depthAfter depth line
    if depth = 1 then readMembers after (nameOf line) rest
    else if depth = 2 ∧ 2 ≤ after then (object, line) :: readMembers after object rest
    else readMembers after object rest

/-- The names in braces in a list of parameters, behind the one parameter that comes first. -/
def readTaken? (parameters : List Char) : Option (List (List Char)) :=
  if parameters = [] then some []
  else do
    let (first, behind) ← cut? '\x7b' parameters
    let (listed, _) ← cut? '\x7d' behind
    if strip first = ['_', ','] then (listed.splitOn ',').mapM fun name => some (strip name) else none

/-- A member and what it takes out of a request, from its first line. -/
def readMember? (line : List Char) : Option (String × List String) := do
  let (name, said) ← readNamed? line
  let (_, behind) ← cut? '(' said
  let (parameters, _) ← cut? ')' behind
  let taken ← readTaken? parameters
  pure (String.ofList name, taken.map String.ofList)

/-- The members of an object of a module. -/
def members? (object module : String) : Option (List (String × List String)) :=
  ((readMembers 0 [] (textLines module)).filter (·.1 = object.toList)).mapM fun m => readMember? m.2

/-! ## 2. Depth -/

/-- One line, and one that closes the braces it opens. -/
def IsBalanced (line : String) : Prop :=
  '\n' ∉ line.toList ∧ line.toList.count '\x7b' = line.toList.count '\x7d'

instance (line : String) : Decidable (IsBalanced line) := by
  unfold IsBalanced
  infer_instance

theorem isBalanced_append {a b : String} (ha : IsBalanced a) (hb : IsBalanced b) :
    IsBalanced (a ++ b) := by
  unfold IsBalanced at *
  rw [String.toList_append, List.count_append, List.count_append, List.mem_append, ha.2, hb.2]
  exact ⟨not_or.mpr ⟨ha.1, hb.1⟩, rfl⟩

theorem isBalanced_of_isWord {word : String} (h : IsWord word.toList) : IsBalanced word := by
  have hopen : word.toList.count '\x7b' = 0 := List.count_eq_zero.mpr (h.not_mem rfl)
  have hclose : word.toList.count '\x7d' = 0 := List.count_eq_zero.mpr (h.not_mem rfl)
  exact ⟨h.not_mem rfl, hopen.trans hclose.symm⟩

theorem depthAfter_of_balanced {line : String} (h : IsBalanced line) (depth : Nat) :
    depthAfter depth line.toList = depth := by
  unfold depthAfter
  rw [h.2, Nat.add_sub_cancel]

theorem depthAfter_append_open {line : String} (h : IsBalanced line) (depth : Nat) :
    depthAfter depth (line ++ "\x7b").toList = depth + 1 := by
  unfold depthAfter
  rw [String.toList_append, List.count_append, List.count_append, h.2]
  have hopen : "\x7b".toList.count '\x7b' = 1 := by decide
  have hclose : "\x7b".toList.count '\x7d' = 0 := by decide
  omega

/-- **Lines deep inside are no members.** -/
theorem readMembers_deep {ls : List String} (h : ∀ l ∈ ls, IsBalanced l) (object : List Char)
    (rest : List (List Char)) :
    readMembers 3 object (ls.map (·.toList) ++ rest) = readMembers 3 object rest := by
  induction ls with
  | nil => rfl
  | cons l more ih =>
    rw [List.map_cons, List.cons_append, readMembers, depthAfter_of_balanced (h l List.mem_cons_self)]
    exact ih fun m hm => h m (List.mem_cons_of_mem _ hm)

/-! ## 3. Resolvers -/

/-- The lines of the body of a resolver. -/
def ResolverBody.lines : ResolverBody → List String
  | .expression text => [text]
  | .block ls => ls

/-- A resolver with names that are words and a body that closes its braces. -/
structure Resolver.IsPlain (r : Resolver) : Prop where
  name : IsWord r.name.toList
  arguments : ∀ a ∈ r.arguments, IsWord a.toList
  balanced : ∀ l ∈ r.body.lines, IsBalanced l

/-- The first line of a resolver. -/
def Resolver.firstLine (r : Resolver) : String :=
  match r.body with
  | .expression text => r.head ++ text ++ ","
  | .block _ => r.head ++ "\x7b"

/-- The names that a resolver takes, as they are written. -/
def Resolver.listed (r : Resolver) : List Char :=
  [',', ' '].intercalate (r.arguments.map (·.toList))

theorem Resolver.toList_parameterText (r : Resolver) :
    r.parameterText.toList =
      if r.arguments = [] then []
      else ['_', ',', ' '] ++ '\x7b' :: ([' '] ++ (r.listed ++ [' ']) ++ '\x7d' :: []) := by
  unfold parameterText listed
  by_cases h : r.arguments = []
  · simp [h]
  · rw [if_neg h, if_neg (List.isEmpty_iff.not.mpr h)]
    simp

theorem Resolver.toList_head (r : Resolver) :
    r.head.toList = [' ', ' ', ' ', ' '] ++ (r.name.toList ++ ':' :: (" async ".toList ++
      '(' :: (r.parameterText.toList ++ ')' :: " => ".toList))) := by
  unfold head
  simp

section Plain

variable {r : Resolver} (h : r.IsPlain)
include h

theorem Resolver.IsPlain.not_mem_listed {c : Char} (hc : isWordPart c = false)
    (hbetween : c ∉ [',', ' ']) : c ∉ r.listed := by
  refine not_mem_intercalate hbetween fun text htext => ?_
  obtain ⟨a, ha, rfl⟩ := List.mem_map.mp htext
  exact (h.arguments a ha).not_mem hc

theorem Resolver.IsPlain.readTaken? :
    readTaken? r.parameterText.toList = some (r.arguments.map (·.toList)) := by
  have hblank : ∀ c ∈ [' '], c = ' ' := fun c hc => List.mem_singleton.mp hc
  unfold SampleSchema.readTaken?
  rw [r.toList_parameterText]
  by_cases hnone : r.arguments = []
  · rw [if_pos hnone, if_pos rfl, hnone]
    rfl
  · have hlisted : '\x7d' ∉ [' '] ++ (r.listed ++ [' ']) := by
      simp [h.not_mem_listed (c := '\x7d') rfl (by decide)]
    have hstrip : ∀ a ∈ r.arguments, ∀ before after : List Char, (∀ c ∈ before, c = ' ') →
        (∀ c ∈ after, c = ' ') →
        (fun name => some (strip name)) (before ++ (a.toList ++ after)) = some a.toList := by
      intro a ha before after hbefore hafter
      have hword := h.arguments a ha
      exact congrArg some (strip_eq before after hbefore hafter hword.1 (hword.not_mem rfl))
    have hnames : (([' '] ++ (r.listed ++ [' '])).splitOn ',').mapM (fun name => some (strip name)) =
        some (r.arguments.map (·.toList)) :=
      mapM_splitOn_listed hnone (fun a ha => (h.arguments a ha).not_mem rfl) hstrip [' '] [' ']
        hblank hblank
    rw [if_neg hnone, if_neg (by simp), cut?_append (by decide)]
    simp only [Option.bind_eq_bind, Option.bind_some]
    rw [cut?_append hlisted]
    simp only [Option.bind_some]
    rw [if_pos (by decide)]
    exact hnames

/-- **A resolver is read back from the head of its first line**, whatever follows it. -/
theorem readMember?_head (after : List Char) :
    readMember? (r.head.toList ++ after) = some (r.name, r.arguments) := by
  have hparameters : ')' ∉ r.parameterText.toList := by
    have hlisted := h.not_mem_listed (c := ')') rfl (by decide)
    rw [r.toList_parameterText]
    split <;> simp [hlisted]
  have htext : r.head.toList ++ after = [' ', ' ', ' ', ' '] ++ (r.name.toList ++ ':' ::
      (" async ".toList ++ '(' :: (r.parameterText.toList ++ ')' :: (" => ".toList ++ after)))) := by
    rw [r.toList_head]
    simp
  unfold readMember?
  rw [htext, readNamed?_eq (by simp) h.name]
  simp only [Option.bind_eq_bind, Option.bind_some]
  rw [cut?_append (by decide)]
  simp only [Option.bind_some]
  rw [cut?_append hparameters]
  simp only [Option.bind_some]
  rw [h.readTaken?]
  simp [Function.comp_def]

theorem Resolver.IsPlain.isBalanced_head : IsBalanced r.head := by
  have hname := isBalanced_of_isWord h.name
  have hnone : ∀ c, isWordPart c = false → c ∉ [',', ' '] → r.listed.count c = 0 := fun c hc hb =>
    List.count_eq_zero.mpr (h.not_mem_listed hc hb)
  have hparameters : IsBalanced r.parameterText := by
    have hopen := hnone '\x7b' rfl (by decide)
    have hclose := hnone '\x7d' rfl (by decide)
    have hbreak := h.not_mem_listed (c := '\n') rfl (by decide)
    unfold IsBalanced
    rw [r.toList_parameterText]
    split <;> simp [hopen, hclose, hbreak]
  unfold head
  exact isBalanced_append (isBalanced_append (isBalanced_append
    (isBalanced_append (by decide) hname) (by decide)) hparameters) (by decide)

theorem Resolver.IsPlain.newline_not_mem_lines : ∀ l ∈ r.lines, '\n' ∉ l.toList := by
  have hhead := h.isBalanced_head.1
  intro l hl
  have hbody := h.balanced
  unfold lines at hl
  cases hb : r.body with
  | expression text =>
    rw [hb] at hl hbody
    rw [List.mem_singleton.mp hl]
    simp [hhead, (hbody text List.mem_cons_self).1]
  | block ls =>
    rw [hb] at hl hbody
    rcases List.mem_append.mp hl with hl | hl
    · rcases List.mem_cons.mp hl with rfl | hl
      · simp [hhead]
      · exact (hbody l hl).1
    · rw [List.mem_singleton.mp hl]
      decide

/-- **A resolver is one member**, whatever its body. -/
theorem readMembers_resolver (object : List Char) (rest : List (List Char)) :
    readMembers 2 object (r.lines.map (·.toList) ++ rest) =
      (object, r.firstLine.toList) :: readMembers 2 object rest := by
  have hbody := h.balanced
  unfold Resolver.lines Resolver.firstLine
  cases hb : r.body with
  | expression text =>
    rw [hb] at hbody
    have hline : IsBalanced (r.head ++ text ++ ",") :=
      isBalanced_append (isBalanced_append h.isBalanced_head (hbody text List.mem_cons_self))
        (by decide)
    dsimp only
    rw [List.map_singleton, List.singleton_append, readMembers, depthAfter_of_balanced hline]
    rfl
  | block ls =>
    rw [hb] at hbody
    dsimp only
    rw [List.map_append, List.map_cons, List.append_assoc, List.cons_append, readMembers,
      depthAfter_append_open h.isBalanced_head]
    have hdeep := readMembers_deep hbody object (["    \x7d,"].map (·.toList) ++ rest)
    rw [if_neg (by decide), if_pos (by decide)]
    exact congrArg (List.cons (object, (r.head ++ "\x7b").toList)) (hdeep.trans rfl)

end Plain

section Group

variable {rs : List Resolver} (h : ∀ r ∈ rs, r.IsPlain)
include h

theorem readMembers_resolvers (object : List Char) (rest : List (List Char)) :
    readMembers 2 object ((rs.flatMap (·.lines)).map (·.toList) ++ rest) =
      rs.map (fun r => (object, r.firstLine.toList)) ++ readMembers 2 object rest := by
  induction rs with
  | nil => rfl
  | cons r more ih =>
    have hmore := ih fun s hs => h s (List.mem_cons_of_mem _ hs)
    rw [List.flatMap_cons, List.map_append, List.append_assoc,
      readMembers_resolver (h r List.mem_cons_self), hmore]
    rfl

/-- **A group of resolvers is an object with these members.** -/
theorem readMembers_group {name : String} (hname : IsWord name.toList) (object : List Char)
    (rest : List (List Char)) :
    readMembers 1 object ((resolverGroup name rs).map (·.toList) ++ rest) =
      rs.map (fun r => (name.toList, r.firstLine.toList)) ++ readMembers 1 name.toList rest := by
  have hopen : ("  " ++ name ++ ": \x7b").toList =
      [' ', ' '] ++ (name.toList ++ ':' :: [' ', '\x7b']) := by
    simp
  have hdepth : depthAfter 1 ("  " ++ name ++ ": \x7b").toList = 2 := by
    have hbraces : name.toList.count '\x7b' = 0 ∧ name.toList.count '\x7d' = 0 :=
      ⟨List.count_eq_zero.mpr (hname.not_mem rfl), List.count_eq_zero.mpr (hname.not_mem rfl)⟩
    unfold depthAfter
    rw [hopen]
    simp [hbraces]
  have hnameOf : nameOf ("  " ++ name ++ ": \x7b").toList = name.toList := by
    unfold nameOf
    rw [hopen, readNamed?_eq (by simp) hname]
    rfl
  unfold resolverGroup
  rw [List.cons_append, List.map_cons, List.map_append, List.cons_append, readMembers, hdepth,
    hnameOf, List.append_assoc]
  rw [if_pos rfl, readMembers_resolvers h]
  rfl

theorem newline_not_mem_group {name : String} (hname : IsWord name.toList) :
    ∀ l ∈ resolverGroup name rs, '\n' ∉ l.toList := by
  intro l hl
  have hbreak : '\n' ∉ name.toList := hname.not_mem rfl
  rcases List.mem_append.mp hl with hl | hl
  · rcases List.mem_cons.mp hl with rfl | hl
    · simp [hbreak]
    · obtain ⟨r, hr, hl⟩ := List.mem_flatMap.mp hl
      exact (h r hr).newline_not_mem_lines l hl
  · rw [List.mem_singleton.mp hl]
    decide

end Group

/-! ## 4. The module -/

section Accepted

variable {typeName : String} (h : typeNameFault? typeName = none)
include h

/-- A resolver has the name of its operation. -/
theorem isWord_resolver_name {r : Resolver}
    (hr : r ∈ queryResolvers typeName ++ mutationResolvers typeName) : IsWord r.name.toList := by
  have hsame : (queryResolvers typeName ++ mutationResolvers typeName).map (·.name) =
      (queries typeName ++ mutations typeName).map (·.name) := rfl
  have hname : r.name ∈ (queries typeName ++ mutations typeName).map (·.name) :=
    hsame ▸ List.mem_map_of_mem hr
  obtain ⟨op, hop, heq⟩ := List.mem_map.mp hname
  rw [← heq]
  rcases List.mem_append.mp hop with hop | hop
  · exact (isPlain_queries h op hop).name
  · exact (isPlain_mutations h op hop).name

omit h in
/-- What resolvers take does not depend on the entity. -/
theorem isWord_resolver_argument {r : Resolver}
    (hr : r ∈ queryResolvers typeName ++ mutationResolvers typeName) :
    ∀ a ∈ r.arguments, IsWord a.toList := by
  have htaken : (queryResolvers typeName ++ mutationResolvers typeName).map (·.arguments) =
      [[], ["id"], ["input"], ["id", "input"], ["id"]] := rfl
  have hall : ∀ taken ∈ [[], ["id"], ["input"], ["id", "input"], ["id"]], ∀ a ∈ taken,
      IsWord a.toList := by decide
  exact hall r.arguments (htaken ▸ List.mem_map_of_mem hr)

theorem isBalanced_typeName : IsBalanced typeName :=
  isBalanced_of_isWord (isWord_of_typeNameFault? h)

theorem isBalanced_spliced {before after : String} (hbefore : IsBalanced before)
    (hafter : IsBalanced after) : IsBalanced (before ++ typeName ++ after) :=
  isBalanced_append (isBalanced_append hbefore (isBalanced_typeName h)) hafter

theorem isBalanced_foundOrFail : ∀ l ∈ foundOrFail typeName, IsBalanced l := by
  intro l hl
  simp only [foundOrFail, List.mem_cons, List.not_mem_nil, or_false] at hl
  rcases hl with rfl | rfl
  · exact isBalanced_spliced h (by decide) (by decide)
  · decide

theorem isBalanced_queryBody {r : Resolver} (hr : r ∈ queryResolvers typeName) :
    ∀ l ∈ r.body.lines, IsBalanced l := by
  simp only [queryResolvers, List.mem_cons, List.not_mem_nil, or_false] at hr
  rcases hr with rfl | rfl <;> intro l hl
  · rw [List.mem_singleton.mp hl]
    exact isBalanced_append (isBalanced_typeName h) (by decide)
  · rcases List.mem_cons.mp hl with rfl | hl
    · exact isBalanced_spliced h (by decide) (by decide)
    · exact isBalanced_foundOrFail h l hl

theorem isBalanced_mutationBody {r : Resolver} (hr : r ∈ mutationResolvers typeName) :
    ∀ l ∈ r.body.lines, IsBalanced l := by
  have hcall : ∀ l ∈ ["        id,", "        input,", "        \x7b new: true, lean: true \x7d",
      "      );"], IsBalanced l := by decide
  simp only [mutationResolvers, List.mem_cons, List.not_mem_nil, or_false] at hr
  rcases hr with rfl | rfl | rfl <;> intro l hl
  · rw [List.mem_singleton.mp hl]
    exact isBalanced_append (isBalanced_typeName h) (by decide)
  · rcases List.mem_append.mp hl with hl | hl
    · rcases List.mem_cons.mp hl with rfl | hl
      · exact isBalanced_spliced h (by decide) (by decide)
      · exact hcall l hl
    · exact isBalanced_foundOrFail h l hl
  · rcases List.mem_cons.mp hl with rfl | hl
    · exact isBalanced_spliced h (by decide) (by decide)
    · rw [List.mem_singleton.mp hl]
      decide

/-- The resolvers are plain. -/
theorem isPlain_resolvers :
    ∀ r ∈ queryResolvers typeName ++ mutationResolvers typeName, r.IsPlain := by
  intro r hr
  refine ⟨isWord_resolver_name h hr, isWord_resolver_argument hr, ?_⟩
  rcases List.mem_append.mp hr with hr | hr
  · exact isBalanced_queryBody h hr
  · exact isBalanced_mutationBody h hr

theorem isBalanced_importLine : IsBalanced (importLine typeName) :=
  isBalanced_append (isBalanced_append (isBalanced_append
    (isBalanced_append (by decide) (isBalanced_typeName h)) (by decide)) (isBalanced_typeName h))
    (by decide)

theorem newline_not_mem_resolverLines : ∀ l ∈ resolverLines typeName, '\n' ∉ l.toList := by
  have hplain := isPlain_resolvers h
  intro l hl
  simp only [resolverLines, List.mem_append, List.mem_cons, List.not_mem_nil, or_false] at hl
  rcases hl with (((rfl | rfl | rfl) | hl) | hl) | rfl
  · exact (isBalanced_importLine h).1
  · decide
  · decide
  · exact newline_not_mem_group (fun r hr => hplain r (List.mem_append_left _ hr))
      (by decide : IsWord "Query".toList) l hl
  · exact newline_not_mem_group (fun r hr => hplain r (List.mem_append_right _ hr))
      (by decide : IsWord "Mutation".toList) l hl
  · decide

/-- **The members of both objects of a resolver module**, in order. -/
theorem readMembers_resolverModule :
    readMembers 0 [] (textLines (resolverModule typeName)) =
      (queryResolvers typeName).map (fun r => ("Query".toList, r.firstLine.toList)) ++
        (mutationResolvers typeName).map fun r => ("Mutation".toList, r.firstLine.toList) := by
  have hplain := isPlain_resolvers h
  have hqueries := fun r hr => hplain r (List.mem_append_left (mutationResolvers typeName) hr)
  have hmutations := fun r hr => hplain r (List.mem_append_right (queryResolvers typeName) hr)
  have htext : (resolverLines typeName).map (·.toList) ++ [[]] =
      (importLine typeName).toList :: [] :: "export default \x7b".toList ::
        ((resolverGroup "Query" (queryResolvers typeName)).map (·.toList) ++
          ((resolverGroup "Mutation" (mutationResolvers typeName)).map (·.toList) ++
            ["\x7d;".toList, []])) := by
    simp [resolverLines]
  have hbegin : ∀ rest, readMembers 0 [] ((importLine typeName).toList :: [] ::
      "export default \x7b".toList :: rest) = readMembers 1 [] rest := by
    intro rest
    rw [readMembers, depthAfter_of_balanced (isBalanced_importLine h)]
    rfl
  have hend : ∀ object, readMembers 1 object ["\x7d;".toList, []] = [] := fun _ => rfl
  unfold resolverModule
  rw [textLines_endLines (newline_not_mem_resolverLines h), htext, hbegin,
    readMembers_group hqueries (by decide), readMembers_group hmutations (by decide), hend,
    List.append_nil]

/-- **The members of one object** are those of its group. -/
theorem members?_resolverModule {object : String} {resolvers : List Resolver}
    (hplain : ∀ r ∈ resolvers, r.IsPlain)
    (hgroup : ((queryResolvers typeName).map (fun r => ("Query".toList, r.firstLine.toList)) ++
        (mutationResolvers typeName).map fun r => ("Mutation".toList, r.firstLine.toList)).filter
          (·.1 = object.toList) =
      resolvers.map fun r => (object.toList, r.firstLine.toList)) :
    members? object (resolverModule typeName) =
      some (resolvers.map fun r => (r.name, r.arguments)) := by
  have hfirst : ∀ r ∈ resolvers, readMember? r.firstLine.toList = some (r.name, r.arguments) := by
    intro r hr
    have hhead := readMember?_head (hplain r hr)
    unfold Resolver.firstLine
    split
    · rw [String.toList_append, String.toList_append, List.append_assoc]
      exact hhead _
    · rw [String.toList_append]
      exact hhead _
  unfold members?
  rw [readMembers_resolverModule h, hgroup, List.mapM_map]
  exact mapM_eq_pure_map hfirst

end Accepted

/-! ## 5. Operations and resolvers -/

/-- **The two texts declare the same operations.** For every accepted type name, which has an
    accepted name for a single value, the names of the operations are distinct, and the resolver
    module has under `Query` and under `Mutation` exactly these names in this order, each member
    taking out of a request exactly the arguments of its operation. In the schema of any model the
    last block of either type declares them; and where the names of all fields are API names, they
    are all the fields of either type, unless the entity itself is named so. -/
theorem operations_read_back {typeName : String} (h : typeNameFault? typeName = none) :
    let queried : List ApiOperation :=
      [⟨collectionName typeName, [], "[" ++ typeName ++ "!]!"⟩,
        ⟨valueName typeName, [("id", "ID!")], typeName⟩]
    let changing : List ApiOperation :=
      [⟨"create" ++ typeName, [("input", typeName ++ "Input!")], typeName⟩,
        ⟨"update" ++ typeName, [("id", "ID!"), ("input", typeName ++ "Input!")], typeName⟩,
        ⟨"delete" ++ typeName, [("id", "ID!")], "Boolean!"⟩]
    let answered := fun op : ApiOperation => (op.name, op.arguments.map (·.1))
    typeNameFault? (valueName typeName) = none ∧
    (queried.map (·.name)).Nodup ∧ (changing.map (·.name)).Nodup ∧
    members? "Query" (resolverModule typeName) = some (queried.map answered) ∧
    members? "Mutation" (resolverModule typeName) = some (changing.map answered) ∧
    ∀ model : FieldModel,
      lastFields? "Query" (apiSchema typeName model) = some queried ∧
      lastFields? "Mutation" (apiSchema typeName model) = some changing ∧
      ((∀ f ∈ model.values, isApiName f.name.toList = true) →
        (typeName ≠ "Query" → typeFields? "Query" (apiSchema typeName model) = some queried) ∧
        (typeName ≠ "Mutation" →
          typeFields? "Mutation" (apiSchema typeName model) = some changing)) := by
  intro queried changing answered
  have hplain := isPlain_resolvers h
  obtain ⟨hqueries, hmutations⟩ := isPlain_operations h
  refine ⟨typeNameFault?_valueName h, ?_, ?_, ?_, ?_, fun model => ?_⟩
  · have hne : collectionName typeName ≠ valueName typeName := by
      intro heq
      have hlength := congrArg (fun s : String => s.toList.length) heq
      simp [collectionName, plural] at hlength
    simpa [queried] using hne
  · have hverbs : Function.Injective fun verb : String => verb ++ typeName := by
      intro verb other heq
      have hlist := congrArg String.toList heq
      rw [String.toList_append, String.toList_append] at hlist
      exact String.toList_inj.mp (List.append_cancel_right hlist)
    show (["create", "update", "delete"].map fun verb => verb ++ typeName).Nodup
    exact List.Nodup.map hverbs (by decide)
  · exact members?_resolverModule h (fun r hr => hplain r (List.mem_append_left _ hr)) rfl
  · exact members?_resolverModule h (fun r hr => hplain r (List.mem_append_right _ hr)) rfl
  · obtain ⟨hlast, hall, _⟩ :=
      fields_of_operations h hqueries (filter_operationBlocks_query typeName) model
    obtain ⟨hlast', hall', _⟩ :=
      fields_of_operations h hmutations (filter_operationBlocks_mutation typeName) model
    refine ⟨hlast, hlast', fun hmodel => ?_⟩
    have hbreak : ∀ f ∈ model.values, '\n' ∉ f.name.toList := fun f hf =>
      (isWord_of_isApiName (hmodel f hf)).not_mem rfl
    exact ⟨hall hbreak, hall' hbreak⟩

theorem operations_read_back_order :
    typeNameFault? "Order" = none ∧
    typeFields? "Query" (apiSchema "Order" orderModel) =
      some [⟨"orders", [], "[Order!]!"⟩, ⟨"order", [("id", "ID!")], "Order"⟩] ∧
    members? "Query" (resolverModule "Order") = some [("orders", []), ("order", ["id"])] := by
  have hname : typeNameFault? "Order" = none := by decide
  obtain ⟨_, _, _, hmembers, _, hmodel⟩ := operations_read_back hname
  have hfields := ((hmodel orderModel).2.2 (by decide)).1 (by decide)
  have hvalue : valueName "Order" = "order" := by decide
  rw [collectionName, hvalue] at hmembers hfields
  exact ⟨hname, hfields, hmembers⟩

/-- An entity whose name is that of a type of operations: the name is accepted, and the fields of
    that type are those of the entity besides the operations. -/
theorem apiSchema_declares_query_twice :
    typeNameFault? "Query" = none ∧
    typeFields? "Query" (apiSchema "Query" ⟨[], 0⟩) =
      some [⟨"_id", [], "ID!"⟩, ⟨"createdAt", [], "Date"⟩, ⟨"updatedAt", [], "Date"⟩,
        ⟨"querys", [], "[Query!]!"⟩, ⟨"query", [("id", "ID!")], "Query"⟩] := by
  have hname : typeNameFault? "Query" = none := by decide
  obtain ⟨_, _, hfields⟩ := fields_of_operations hname (isPlain_operations hname).1
    (filter_operationBlocks_query "Query") ⟨[], 0⟩
  have hvalue : valueName "Query" = "query" := by decide
  have hall := hfields (by simp [FieldModel.values]) rfl
  rw [queries, collectionName, hvalue] at hall
  exact ⟨hname, hall⟩

end SampleSchema
