import Mathlib.Data.List.Forall2
import SampleSchema.Proofs.Artifact.Distinct
import SampleSchema.Proofs.Artifact.Operations
import SampleSchema.Proofs.Script.Pieces

/-!
# The definitions of an API schema

To the API a schema is no row of lines, but code: names and marks, between which blanks, line breaks
and commas mean nothing. `definitions?` reads a schema so, as definitions of object types and input
types with their fields. What is read is read as the API reads it: there is nothing that it refuses,
such as braces with no field between them or an input type with arguments. Comments, descriptions,
numbers and dollar signs are not read, and neither is a schema that holds them.

The schema of a model is read as its four definitions, with all their fields
(`definitions?_apiSchema`), if the type name and the names of the fields are API names and the input
type shows a field. Without a field in the input type there is no schema. Any other name can make it
another schema, as the example at the end shows.
-/

namespace SampleSchema

open Script

/-! ## 1. The reader -/

/-- Does a token mean anything in a schema? Commas do not, nor the blanks that code has as marks. -/
def isApiToken (t : Token) : Bool :=
  !([.mark ',', .mark '\t', .mark '\r', .mark '\uFEFF'] : List Token).contains t

theorem isApiToken_word (x : String) : isApiToken (.word x) = true := by simp [isApiToken]

/-- The tokens of a schema. -/
def apiTokens (schema : String) : List Token := (tokens schema).filter isApiToken

/-- A type, with the mark of what is never missing if it stands behind it. -/
def markedType (type : String) : List Token → String × List Token
  | .mark '!' :: rest => (type ++ "!", rest)
  | rest => (type, rest)

/-- A type: a name, or a type in brackets. -/
def typeReference? : PieceReader String
  | .word x :: rest => if isApiName x.toList then some (markedType x rest) else none
  | .mark '[' :: rest =>
    match typeReference? rest with
    | some (type, .mark ']' :: rest) => some (markedType ("[" ++ type ++ "]") rest)
    | _ => none
  | _ => none

/-- An argument and its type. -/
def argument? : PieceReader (String × String)
  | .word x :: .mark ':' :: rest =>
    if isApiName x.toList then (typeReference? rest).map fun (type, rest) => ((x, type), rest)
    else none
  | _ => none

/-- The arguments of a field, if there are any. -/
def arguments? : PieceReader (List (String × String))
  | .mark '(' :: rest => somePieces? (some (.mark ')')) argument? rest
  | ts => some ([], ts)

/-- A field: its name, its arguments and its type. -/
def declaration? : PieceReader ApiOperation
  | .word x :: rest =>
    if isApiName x.toList then
      match arguments? rest with
      | some (arguments, .mark ':' :: rest) =>
        (typeReference? rest).map fun (type, rest) => (⟨x, arguments, type⟩, rest)
      | _ => none
    else none
  | _ => none

/-- What a schema defines: an object type or an input type. -/
structure Definition where
  keyword : String
  name : String
  fields : List ApiOperation
  deriving DecidableEq, Repr

/-- Is this the definition of an object type or an input type? The fields of the latter have no
    arguments. -/
def Definition.isSound (d : Definition) : Bool :=
  isApiName d.name.toList &&
    (d.keyword == "type" || d.keyword == "input" && d.fields.all (·.arguments.isEmpty))

/-- A definition, with the fields between its braces. -/
def definition? : PieceReader Definition
  | .word keyword :: .word x :: .mark '\x7b' :: rest =>
    (somePieces? (some (.mark '\x7d')) declaration? rest).bind fun (fields, rest) =>
      if Definition.isSound ⟨keyword, x, fields⟩ then some (⟨keyword, x, fields⟩, rest) else none
  | _ => none

/-- **The definitions of a schema**, if nothing else is in it. -/
def definitions? (schema : String) : Option (List Definition) :=
  (somePieces? none definition? (apiTokens schema)).map (·.1)

/-! ## 2. Lines that are pieces of a schema -/

section Pieces

variable {α : Type} {piece? : PieceReader α}

/-- **Lines are a piece of a schema**: they begin with a word, and are read as the piece whatever
    stands behind them, unless it is the mark that belongs to a type. -/
def IsPiece (piece? : PieceReader α) (ls : List String) (a : α) : Prop :=
  ∃ code x more, Written ls code ∧ code.filter isApiToken = .word x :: more ∧
    ∀ rest : List Token, rest.head? ≠ some (.mark '!') →
      piece? (.word x :: more ++ rest) = some (a, rest)

/-- Lines without tokens behind a piece belong to it. -/
theorem IsPiece.append {ls ms : List String} {a : α} (h : IsPiece piece? ls a)
    (hms : Written ms []) : IsPiece piece? (ls ++ ms) a := by
  obtain ⟨code, x, more, hwritten, hcode, hread⟩ := h
  exact ⟨code ++ [], x, more, hwritten.append hms, by rw [List.append_nil, hcode], hread⟩

/-- **Pieces that stand one after the other** are read up to what closes them. -/
theorem exists_code_of_pieces (closing : Option Token) (hword : ∀ x, closing ≠ some (.word x))
    (hmark : closing ≠ some (.mark '!')) {lss : List (List String)} {as : List α}
    (h : List.Forall₂ (IsPiece piece?) lss as) :
    ∃ code, Written lss.flatten code ∧ ∀ rest : List Token, rest.head? = closing →
      (code.filter isApiToken ++ rest).head? ≠ some (.mark '!') ∧
      Pieces closing piece? (code.filter isApiToken ++ rest) as rest.tail := by
  induction h with
  | nil =>
    refine ⟨[], written_nil, fun rest hrest => ⟨?_, .nil hrest⟩⟩
    show rest.head? ≠ _
    rwa [hrest]
  | cons hpiece _ ih =>
    obtain ⟨code, x, more, hwritten, hcode, hread⟩ := hpiece
    obtain ⟨codes, hlater, hpieces⟩ := ih
    refine ⟨code ++ codes, hwritten.append hlater, fun rest hrest => ?_⟩
    obtain ⟨hhead, hmore⟩ := hpieces rest hrest
    rw [List.filter_append, hcode, List.append_assoc]
    refine ⟨by simp, .cons ?_ (hread _ hhead) ?_ hmore⟩
    · exact fun heq => hword x heq.symm
    · simp only [List.length_append, List.length_cons]
      omega

end Pieces

/-- A line break behind a text is no token. -/
theorem tokens_append_newline (text : String) : tokens (text ++ "\n") = tokens text := by
  have hbreak : ∀ place : Place, (scan place ['\n']).1 ++ (scan place ['\n']).2.rest =
      place.rest := by
    intro place
    cases place <;> rfl
  unfold tokens
  rw [String.toList_append]
  show (scan .between (text.toList ++ ['\n'])).1 ++ (scan .between (text.toList ++ ['\n'])).2.rest = _
  rw [scan_append]
  dsimp only
  rw [List.append_assoc, hbreak]

theorem joinLines_append_newline (ls : List String) (hne : ls ≠ []) :
    joinLines ls ++ "\n" = endLines ls := by
  induction ls with
  | nil => exact absurd rfl hne
  | cons l rest ih =>
    cases rest with
    | nil => simp [joinLines, endLines]
    | cons m more =>
      have hmore := ih (List.cons_ne_nil m more)
      refine String.toList_inj.mp ?_
      have hlist := congrArg String.toList hmore
      simp only [joinLines, endLines, String.toList_append, String.toList_intercalate,
        List.map_cons, String.toList_join] at hlist ⊢
      simpa [List.intercalate_cons_cons] using hlist

/-- **Definitions that stand one after the other** are what their lines define. -/
theorem definitions?_of_pieces {lss : List (List String)} {definitions : List Definition}
    (hne : definitions ≠ []) (h : List.Forall₂ (IsPiece definition?) lss definitions) :
    definitions? (endLines lss.flatten) = some definitions := by
  obtain ⟨code, hwritten, hpieces⟩ := exists_code_of_pieces none (by simp) (by simp) h
  have hread := (hpieces [] rfl).2.read_some hne
  rw [List.append_nil] at hread
  unfold definitions? apiTokens
  rw [Reads.tokens_eq hwritten, hread]
  rfl

/-! ## 3. Types -/

theorem isName_of_isApiName {name : String} (h : isApiName name.toList = true) : IsName name :=
  isName_of_isIdentifier (isApiName_iff.mp h).1

/-- What stands behind a type: a mark if it is never missing. -/
def requiredMark (required : Bool) : String := if required then "!" else ""

/-- The tokens of that mark. -/
def requiredTokens (required : Bool) : List Token := if required then [.mark '!'] else []

/-- **A type and its tokens.** -/
inductive IsTypeCode : String → List Token → Prop
  | name {x : String} (hx : isApiName x.toList = true) (required : Bool) :
      IsTypeCode (x ++ requiredMark required) (.word x :: requiredTokens required)
  | list {type : String} {code : List Token} (h : IsTypeCode type code) (required : Bool) :
      IsTypeCode ("[" ++ type ++ "]" ++ requiredMark required)
        (.mark '[' :: code ++ .mark ']' :: requiredTokens required)

/-- A name stands for itself. -/
theorem IsTypeCode.plain {x : String} (hx : isApiName x.toList = true) :
    IsTypeCode x [.word x] := by
  have hname := IsTypeCode.name hx false
  rwa [show requiredMark false = "" from rfl, String.append_empty] at hname

/-- A name with the mark behind it, which may be part of the same text. -/
theorem IsTypeCode.marked {x : String} (hx : isApiName x.toList = true) :
    IsTypeCode (x ++ "!") [.word x, .mark '!'] :=
  .name hx true

section Required

variable (required : Bool)

theorem beginsApart_requiredMark {after : String} (h : BeginsApart after) :
    BeginsApart (requiredMark required ++ after) := by
  cases required with
  | false => exact (String.empty_append (s := after)).symm ▸ h
  | true => exact .append (by decide : BeginsApart "!") after

theorem reads_requiredMark {after : String} {ts : List Token} {place : Place}
    (h : Reads .between after ts place) :
    Reads .between (requiredMark required ++ after) (requiredTokens required ++ ts) place := by
  have hmark : Reads .between (requiredMark required) (requiredTokens required) .between := by
    cases required <;> decide
  exact hmark.append h

theorem markedType_requiredTokens (type : String) {rest : List Token}
    (hrest : rest.head? ≠ some (.mark '!')) :
    markedType type (requiredTokens required ++ rest) = (type ++ requiredMark required, rest) := by
  cases required with
  | true => rfl
  | false =>
    show markedType type rest = (type ++ "", rest)
    unfold markedType
    split
    · exact absurd rfl hrest
    · rw [String.append_empty]

end Required

section TypeCode

variable {type : String} {code : List Token} (h : IsTypeCode type code)
include h

/-- **A type is read as its tokens**, whatever stands behind it, unless that goes on with its last
    name. -/
theorem IsTypeCode.reads {after : String} {ts : List Token} {place : Place}
    (hafter : Reads .between after ts place) (hapart : BeginsApart after) :
    Reads .between (type ++ after) (code ++ ts) place := by
  induction h generalizing after ts with
  | name hx required =>
    rw [String.append_assoc]
    exact reads_front (isName_of_isApiName hx) (reads_requiredMark required hafter)
      (beginsApart_requiredMark required hapart)
  | @list type code h required ih =>
    have hopen : Reads .between "[" [.mark '['] .between := by decide
    have hclose : Reads .between "]" [.mark ']'] .between := by decide
    have hbehind := hclose.append (reads_requiredMark required hafter)
    have hinside := ih hbehind (.append (by decide) _)
    have htext : "[" ++ type ++ "]" ++ requiredMark required ++ after =
        "[" ++ (type ++ ("]" ++ (requiredMark required ++ after))) := by
      simp only [String.append_assoc]
    rw [htext]
    simpa using hopen.append hinside

/-- All its tokens count. -/
theorem IsTypeCode.filter_eq : code.filter isApiToken = code := by
  have hrequired : ∀ required, (requiredTokens required).filter isApiToken =
      requiredTokens required := by decide
  have hopen : isApiToken (.mark '[') = true := by decide
  have hclose : isApiToken (.mark ']') = true := by decide
  induction h with
  | name hx required => rw [List.filter_cons_of_pos (isApiToken_word _), hrequired]
  | list _ required ih =>
    rw [List.filter_append, List.filter_cons_of_pos hopen, List.filter_cons_of_pos hclose, ih,
      hrequired]

/-- **The type is read from its tokens.** -/
theorem IsTypeCode.typeReference?_eq {rest : List Token}
    (hrest : rest.head? ≠ some (.mark '!')) :
    typeReference? (code ++ rest) = some (type, rest) := by
  induction h generalizing rest with
  | name hx required =>
    rw [List.cons_append, typeReference?, if_pos hx, markedType_requiredTokens required _ hrest]
  | @list type code _ required ih =>
    have hinside := @ih (.mark ']' :: requiredTokens required ++ rest) (by simp)
    rw [List.append_assoc, List.cons_append, typeReference?]
    rw [List.cons_append] at hinside ⊢
    rw [hinside]
    show some (markedType _ (requiredTokens required ++ rest)) = _
    rw [markedType_requiredTokens required _ hrest]

end TypeCode

/-- **The type of a field is a type of the API.** -/
theorem FieldType.exists_typeCode (t : FieldType) (required : Bool) :
    ∃ code, IsTypeCode (t.api ++ requiredMark required) code := by
  induction t generalizing required with
  | scalar k =>
    have hname : isApiName (FieldType.scalar k).api.toList = true := by cases k <;> decide
    exact ⟨_, .name hname required⟩
  | array e ih =>
    obtain ⟨code, hcode⟩ := ih false
    rw [show requiredMark false = "" from rfl, String.append_empty] at hcode
    exact ⟨_, .list hcode required⟩
  | mixed => exact ⟨_, .name (by decide) required⟩
  | unknown => exact ⟨_, .name (by decide) required⟩

/-! ## 4. Fields -/

/-- A field with API names and with types of the API. -/
structure ApiOperation.IsReadable (op : ApiOperation) : Prop where
  name : isApiName op.name.toList = true
  arguments : ∀ a ∈ op.arguments, isApiName a.1.toList = true ∧ ∃ code, IsTypeCode a.2 code
  result : ∃ code, IsTypeCode op.result code

/-- A line, from its text and the line break behind it. -/
theorem written_of_reads_newline {l : String} {ts : List Token}
    (h : Reads .between (l ++ "\n") ts .between) : Written [l] ts := by
  unfold Written
  rwa [endLines_singleton]

/-- A name and its type, with what stands behind them. -/
theorem reads_typed {name type after : String} {code ts : List Token} {place : Place}
    (hname : isApiName name.toList = true) (htype : IsTypeCode type code)
    (hafter : Reads .between after ts place) (hapart : BeginsApart after) :
    Reads .between (name ++ (": " ++ (type ++ after))) (.word name :: .mark ':' :: (code ++ ts))
      place := by
  have hcolon : Reads .between ": " [.mark ':'] .between := by decide
  exact reads_front (isName_of_isApiName hname) (hcolon.append (htype.reads hafter hapart))
    (.append (by decide) _)

/-- A name and its type count. -/
theorem filter_typed {name type : String} {code : List Token} (htype : IsTypeCode type code)
    (ts : List Token) : (Token.word name :: .mark ':' :: (code ++ ts)).filter isApiToken =
      .word name :: .mark ':' :: (code ++ ts.filter isApiToken) := by
  have hcolon : isApiToken (.mark ':') = true := by decide
  rw [List.filter_cons_of_pos (isApiToken_word _), List.filter_cons_of_pos hcolon,
    List.filter_append, htype.filter_eq]

section Arguments

variable {a : String × String} {code : List Token} (hname : isApiName a.1.toList = true)
  (htype : IsTypeCode a.2 code)
include hname htype

/-- An argument is read from its tokens. -/
theorem argument?_eq {rest : List Token} (hrest : rest.head? ≠ some (.mark '!')) :
    argument? (.word a.1 :: .mark ':' :: (code ++ rest)) = some (a, rest) := by
  rw [argument?, if_pos hname, htype.typeReference?_eq hrest]
  rfl

/-- An argument before others is one more. -/
theorem pieces_cons_argument {closing : Option Token} (hclosing : ∀ x, closing ≠ some (.word x))
    {behind rest : List Token} {more : List (String × String)}
    (hbehind : behind.head? ≠ some (.mark '!')) (h : Pieces closing argument? behind more rest) :
    Pieces closing argument? (.word a.1 :: .mark ':' :: (code ++ behind)) (a :: more) rest := by
  refine .cons (fun heq => hclosing _ heq.symm) (argument?_eq hname htype hbehind) ?_ h
  simp only [List.length_append, List.length_cons]
  omega

end Arguments

/-- **Arguments and the bracket behind them** are read as the arguments. -/
theorem exists_code_of_arguments {arguments : List (String × String)} (hne : arguments ≠ [])
    (h : ∀ a ∈ arguments, isApiName a.1.toList = true ∧ ∃ code, IsTypeCode a.2 code) :
    ∃ code, Reads .between
        (", ".intercalate (arguments.map fun (name, type) => name ++ ": " ++ type) ++ ")")
        code .between ∧
      ∀ rest : List Token, (code.filter isApiToken ++ rest).head? ≠ some (.mark '!') ∧
        Pieces (some (.mark ')')) argument? (code.filter isApiToken ++ rest) arguments rest := by
  induction arguments with
  | nil => exact absurd rfl hne
  | cons a more ih =>
    obtain ⟨⟨hname, code, htype⟩, hmore⟩ := List.forall_mem_cons.mp h
    cases more with
    | nil =>
      have hclose : Reads .between ")" [.mark ')'] .between := by decide
      refine ⟨.word a.1 :: .mark ':' :: (code ++ [.mark ')']), ?_, fun rest => ?_⟩
      · rw [List.map_singleton, String.intercalate_singleton, String.append_assoc,
          String.append_assoc]
        exact reads_typed hname htype hclose (by decide)
      · have hbracket : [Token.mark ')'].filter isApiToken = [.mark ')'] := by decide
        rw [filter_typed htype, hbracket, List.cons_append, List.cons_append, List.append_assoc]
        exact ⟨by simp, pieces_cons_argument hname htype (by simp) (by simp) (.nil rfl)⟩
    | cons b later =>
      obtain ⟨codes, hreads, hpieces⟩ := ih (List.cons_ne_nil _ _) hmore
      have hcomma : Reads .between ", " [.mark ','] .between := by decide
      refine ⟨.word a.1 :: .mark ':' :: (code ++ ([.mark ','] ++ codes)), ?_, fun rest => ?_⟩
      · rw [List.map_cons, List.map_cons, String.intercalate_cons_cons]
        simp only [String.append_assoc]
        refine reads_typed hname htype (hcomma.append ?_) (.append (by decide) _)
        simpa [String.append_assoc] using hreads
      · obtain ⟨hhead, hmore⟩ := hpieces rest
        rw [filter_typed htype, List.cons_append, List.cons_append, List.append_assoc]
        exact ⟨by simp, pieces_cons_argument hname htype (by simp) hhead hmore⟩

/-- **The arguments of an operation** are read back, whatever they are, from code in brackets or
    none. -/
theorem ApiOperation.IsReadable.exists_argumentCode {op : ApiOperation} (h : op.IsReadable) :
    ∃ code, Reads .between op.argumentText code .between ∧ ∀ rest : List Token,
      arguments? (code.filter isApiToken ++ .mark ':' :: rest) =
        some (op.arguments, .mark ':' :: rest) := by
  unfold ApiOperation.argumentText
  split <;> rename_i harguments
  · exact ⟨[], rfl, fun rest => by rw [List.isEmpty_iff.mp harguments]; rfl⟩
  · have hne := List.isEmpty_iff.not.mp harguments
    obtain ⟨code, hreads, hpieces⟩ := exists_code_of_arguments hne h.arguments
    have hopen : Reads .between "(" [.mark '('] .between := by decide
    refine ⟨.mark '(' :: code, ?_, fun rest => (hpieces _).2.read_some hne⟩
    rw [String.append_assoc]
    exact hopen.append hreads

/-- **The line of an operation is a piece of a schema**, and so is that of a field. -/
theorem ApiOperation.IsReadable.isPiece_line {op : ApiOperation} (h : op.IsReadable) :
    IsPiece declaration? [op.line] op := by
  obtain ⟨codes, hreads, harguments⟩ := h.exists_argumentCode
  obtain ⟨hname, -, code, htype⟩ := h
  have hblank : Reads .between "  " [] .between := by decide
  have hcolon : Reads .between ": " [.mark ':'] .between := by decide
  have hbreak : Reads .between "\n" [] .between := by decide
  have hmark : isApiToken (.mark ':') = true := by decide
  have hbehind : Reads .between (op.argumentText ++ (": " ++ (op.result ++ "\n")))
      (codes ++ (.mark ':' :: (code ++ []))) .between :=
    hreads.append (hcolon.append (htype.reads hbreak (by decide)))
  have hapart : BeginsApart (op.argumentText ++ (": " ++ (op.result ++ "\n"))) := by
    unfold ApiOperation.argumentText
    split
    · rw [String.empty_append]
      exact .append (by decide) _
    · rw [String.append_assoc, String.append_assoc]
      exact .append (by decide) _
  have hline : Reads .between (op.line ++ "\n")
      (.word op.name :: (codes ++ (.mark ':' :: (code ++ [])))) .between := by
    unfold ApiOperation.line
    simp only [String.append_assoc]
    exact hblank.append (reads_front (isName_of_isApiName hname) hbehind hapart)
  refine ⟨_, op.name, codes.filter isApiToken ++ .mark ':' :: code,
    written_of_reads_newline hline, ?_, fun rest hrest => ?_⟩
  · rw [List.filter_cons_of_pos (isApiToken_word _), List.filter_append,
      List.filter_cons_of_pos hmark, List.append_nil, htype.filter_eq]
  · rw [List.cons_append, declaration?, if_pos hname, List.append_assoc, List.cons_append,
      harguments]
    show (typeReference? (code ++ rest)).map _ = _
    rw [htype.typeReference?_eq hrest]
    rfl

/-! ## 5. Definitions -/

/-- What is a definition begins with a word and a name. -/
theorem Definition.names_of_isSound {d : Definition} (h : d.isSound = true) :
    IsName d.keyword ∧ IsName d.name := by
  obtain ⟨hname, hkeyword⟩ := Bool.and_eq_true_iff.mp h
  refine ⟨?_, isName_of_isApiName hname⟩
  rcases Bool.or_eq_true_iff.mp hkeyword with htype | hinput
  · rw [eq_of_beq htype]
    decide
  · rw [eq_of_beq (Bool.and_eq_true_iff.mp hinput).1]
    decide

/-- The first line of a definition. -/
theorem reads_firstLine {keyword name : String} (hkeyword : IsName keyword) (hname : IsName name) :
    Reads .between (keyword ++ " " ++ name ++ " \x7b")
      [.word keyword, .word name, .mark '\x7b'] .between := by
  have hblank : Reads .between " " [] .between := by decide
  have hopen : Reads .between " \x7b" [.mark '\x7b'] .between := by decide
  simp only [String.append_assoc]
  exact reads_front hkeyword (hblank.append (reads_front hname hopen (by decide)))
    (.append (by decide) _)

/-- The tokens of a first line all count. -/
theorem filter_firstLine (keyword name : String) (ts : List Token) :
    ([Token.word keyword, .word name, .mark '\x7b'] ++ ts).filter isApiToken =
      .word keyword :: .word name :: .mark '\x7b' :: ts.filter isApiToken := by
  have hbrace : isApiToken (.mark '\x7b') = true := by decide
  rw [List.filter_append, List.filter_cons_of_pos (isApiToken_word _),
    List.filter_cons_of_pos (isApiToken_word _), List.filter_cons_of_pos hbrace]
  rfl

/-- **Fields between braces are a definition**, behind its keyword and its name. -/
theorem isPiece_braced {d : Definition} (hd : d.isSound = true) (hne : d.fields ≠ [])
    (h : ∀ op ∈ d.fields, op.IsReadable) :
    IsPiece definition? (braced (d.keyword ++ " " ++ d.name) (d.fields.map (·.line))) d := by
  obtain ⟨hkeyword, hname⟩ := Definition.names_of_isSound hd
  have hpieces : List.Forall₂ (IsPiece declaration?) (d.fields.map fun op => [op.line]) d.fields :=
    List.forall₂_map_left_iff.mpr (List.forall₂_same.mpr fun op hop => (h op hop).isPiece_line)
  obtain ⟨code, hwritten, hread⟩ :=
    exists_code_of_pieces (some (.mark '\x7d')) (by simp) (by simp) hpieces
  have hlines : (d.fields.map fun op => [op.line]).flatten = d.fields.map (·.line) := by
    rw [← List.flatMap_def]
    exact List.flatMap_pure_eq_map _ d.fields
  rw [hlines] at hwritten
  have hclose : Written ["\x7d"] [.mark '\x7d'] := by decide
  have hwhole := Written.cons (reads_firstLine hkeyword hname) (hwritten.append hclose)
  have hbrace : [Token.mark '\x7d'].filter isApiToken = [.mark '\x7d'] := by decide
  refine ⟨_, d.keyword, .word d.name :: .mark '\x7b' ::
    (code.filter isApiToken ++ [.mark '\x7d']), hwhole, ?_, fun rest _ => ?_⟩
  · rw [filter_firstLine, List.filter_append, hbrace]
  · have hfields := (hread (.mark '\x7d' :: rest) rfl).2.read_some hne
    rw [List.cons_append, List.cons_append, List.cons_append, List.append_assoc,
      List.singleton_append, definition?, hfields]
    exact if_pos hd

/-- The tokens of a type without a field all count. -/
theorem filter_bare (keyword name : String) :
    ([Token.word keyword, .word name, .mark '\x7b'] ++ [Token.mark '\x7d']).filter isApiToken =
      [.word keyword, .word name, .mark '\x7b', .mark '\x7d'] := by
  rw [filter_firstLine]
  rfl

/-- Braces with nothing between them are no definition, whatever stands behind them. -/
theorem definition?_bare (keyword name : String) (rest : List Token) :
    definition? (.word keyword :: .word name :: .mark '\x7b' :: .mark '\x7d' :: rest) = none := by
  have hclosed : somePieces? (some (.mark '\x7d')) declaration? (.mark '\x7d' :: rest) = none :=
    somePieces?_of_closed rfl
  rw [definition?, hclosed]
  rfl

/-- Without a line break at the end lines define the same. -/
theorem definitions?_joinLines {ls : List String} (hne : ls ≠ []) :
    definitions? (joinLines ls) = definitions? (endLines ls) := by
  unfold definitions? apiTokens
  rw [← joinLines_append_newline ls hne, tokens_append_newline]

/-- A single definition is what its lines define. -/
theorem definitions?_of_isPiece {ls : List String} {d : Definition} (hne : ls ≠ [])
    (h : IsPiece definition? ls d) : definitions? (joinLines ls) = some [d] := by
  have hread := definitions?_of_pieces (List.cons_ne_nil _ _) (List.Forall₂.cons h .nil)
  rw [List.flatten_cons, List.flatten_nil, List.append_nil] at hread
  rw [definitions?_joinLines hne, hread]

/-! ## 6. The schema of a model -/

section Fields

variable {model : FieldModel} (hmodel : ∀ f ∈ model.values, isApiName f.name.toList = true)
include hmodel

theorem FieldModel.isReadable_toApi {f : Field} (hf : f ∈ model.values) :
    f.toApi.toOperation.IsReadable :=
  ⟨hmodel f hf, nofun, f.type.exists_typeCode f.required⟩

/-- **What the types of a model declare is readable** if the names of its fields are API names. -/
theorem FieldModel.isReadable_declared : ∀ op ∈ model.declared, op.IsReadable := by
  have hidentity : identityField.toOperation.IsReadable :=
    ⟨by decide, nofun, _, .name (x := "ID") (by decide) true⟩
  have hstamps : ∀ f ∈ timestampFields, f.toOperation.IsReadable := by
    have hdate : ∃ code, IsTypeCode ("Date" ++ requiredMark false) code :=
      ⟨_, .name (x := "Date") (by decide) false⟩
    intro f hf
    simp only [timestampFields, timestampNames, List.map_cons, List.map_nil, List.mem_cons,
      List.not_mem_nil, or_false] at hf
    rcases hf with rfl | rfl
    · exact ⟨by decide, nofun, hdate⟩
    · exact ⟨by decide, nofun, hdate⟩
  intro op hop
  obtain ⟨f, hf, rfl⟩ := List.mem_map.mp hop
  rcases List.mem_append.mp hf with hf | hf
  · rcases List.mem_cons.mp hf with rfl | hf
    · exact hidentity
    · obtain ⟨e, he, rfl⟩ := List.mem_map.mp hf
      exact FieldModel.isReadable_toApi hmodel (List.mem_of_mem_filter he)
  · exact hstamps f hf

theorem FieldModel.isReadable_inputFields :
    ∀ op ∈ model.inputFields.map (·.toOperation), op.IsReadable := by
  intro op hop
  obtain ⟨f, hf, rfl⟩ := List.mem_map.mp hop
  obtain ⟨e, he, rfl⟩ := List.mem_map.mp hf
  exact FieldModel.isReadable_toApi hmodel (List.mem_of_mem_filter he)

end Fields

theorem ApiField.map_line_toOperation (fields : List ApiField) :
    (fields.map (·.toOperation)).map (·.line) = fields.map (·.line) := by
  rw [List.map_map]
  exact List.map_congr_left fun f _ => f.line_toOperation

section Types

variable {typeName : String} (hname : isApiName typeName.toList = true)
include hname

theorem isApiName_input : isApiName (typeName ++ "Input").toList = true := by
  rw [String.toList_append]
  exact isApiName_append hname (by decide)

/-- The tokens of an input type without a field. -/
theorem written_bareInput : Written (inputTypeLines typeName [])
    ([.word "input", .word (typeName ++ "Input"), .mark '\x7b'] ++ [.mark '\x7d']) := by
  have hkeyword : IsName "input" := by decide
  have hclose : Written ["\x7d"] [.mark '\x7d'] := by decide
  have hfirst := reads_firstLine hkeyword (isName_of_isApiName (isApiName_input hname))
  rw [← String.append_assoc] at hfirst
  exact Written.cons hfirst hclose

variable {model : FieldModel} (hmodel : ∀ f ∈ model.values, isApiName f.name.toList = true)
include hmodel

/-- The lines of the object type are a definition. -/
theorem isPiece_objectTypeLines :
    IsPiece definition? (objectTypeLines typeName model.objectFields)
      ⟨"type", typeName, model.declared⟩ := by
  have hsound : Definition.isSound ⟨"type", typeName, model.declared⟩ = true := by
    simp [Definition.isSound, hname]
  have hpiece := isPiece_braced hsound (List.cons_ne_nil _ _)
    (FieldModel.isReadable_declared hmodel)
  unfold FieldModel.declared at hpiece
  rw [ApiField.map_line_toOperation] at hpiece
  exact hpiece

/-- The lines of the input type are a definition if they show a field. -/
theorem isPiece_inputTypeLines (hsome : model.inputFields ≠ []) :
    IsPiece definition? (inputTypeLines typeName model.inputFields)
      ⟨"input", typeName ++ "Input", model.inputFields.map (·.toOperation)⟩ := by
  have hsound : Definition.isSound
      ⟨"input", typeName ++ "Input", model.inputFields.map (·.toOperation)⟩ = true := by
    unfold Definition.isSound
    rw [isApiName_input hname]
    simp [ApiField.toOperation]
  have hpiece := isPiece_braced hsound (List.map_eq_nil_iff.not.mpr hsome)
    (FieldModel.isReadable_inputFields hmodel)
  rw [ApiField.map_line_toOperation, ← String.append_assoc] at hpiece
  exact hpiece

/-- **The object type of a model is read back as a definition.** -/
theorem definitions?_objectType :
    definitions? (objectType typeName model) = some [⟨"type", typeName, model.declared⟩] :=
  definitions?_of_isPiece (List.cons_ne_nil _ _) (isPiece_objectTypeLines hname hmodel)

/-- **The input type of a model is read back as a definition** if it shows a field, and is none
    otherwise. -/
theorem definitions?_inputType :
    definitions? (inputType typeName model) =
      if model.inputFields = [] then none
      else some [⟨"input", typeName ++ "Input", model.inputFields.map (·.toOperation)⟩] := by
  split
  · rename_i hnone
    unfold inputType
    have hlines : inputTypeLines typeName [] ≠ [] := List.cons_ne_nil _ _
    rw [hnone, definitions?_joinLines hlines]
    have hread : somePieces? none definition?
        [.word "input", .word (typeName ++ "Input"), .mark '\x7b', .mark '\x7d'] = none :=
      somePieces?_eq_none (by simp) (definition?_bare _ _ _)
    unfold definitions? apiTokens
    rw [Reads.tokens_eq (written_bareInput hname), filter_bare, hread]
    rfl
  · rename_i hsome
    exact definitions?_of_isPiece (List.cons_ne_nil _ _) (isPiece_inputTypeLines hname hmodel hsome)

end Types

/-- A schema is the lines of its four definitions, with empty lines between them. -/
theorem apiSchema_eq_endLines (typeName : String) (model : FieldModel) :
    apiSchema typeName model = endLines
      [objectTypeLines typeName model.objectFields ++ [""],
        inputTypeLines typeName model.inputFields ++ [""],
        braced "type Query" ((queries typeName).map (·.line)) ++ [""],
        braced "type Mutation" ((mutations typeName).map (·.line))].flatten := by
  have hobject := joinLines_append_newline (objectTypeLines typeName model.objectFields)
    (List.cons_ne_nil _ _)
  have hinput := joinLines_append_newline (inputTypeLines typeName model.inputFields)
    (List.cons_ne_nil _ _)
  have hempty : endLines [""] = "\n" := by decide
  unfold apiSchema objectType inputType operationLines
  simp only [List.flatten_cons, List.flatten_nil, List.append_nil, endLines_append, ← hobject,
    ← hinput, hempty]
  refine String.toList_inj.mp ?_
  simp

section Schema

variable {typeName : String} (hnames : ∀ name ∈ apiNames typeName, isApiName name.toList = true)
include hnames

/-- What identifies an entity, and the data of one, are readable arguments. -/
theorem isReadable_arguments : ∀ a ∈ [("id", "ID!"), ("input", typeName ++ "Input!")],
    isApiName a.1.toList = true ∧ ∃ code, IsTypeCode a.2 code := by
  have hinput : IsTypeCode (typeName ++ "Input" ++ "!") [.word (typeName ++ "Input"), .mark '!'] :=
    .marked (hnames _ (by simp [apiNames]))
  rw [String.append_assoc] at hinput
  intro a ha
  rcases List.mem_cons.mp ha with rfl | ha
  · exact ⟨by decide, _, .marked (x := "ID") (by decide)⟩
  · rw [List.mem_singleton.mp ha]
    exact ⟨(by decide : isApiName "input".toList = true), _, hinput⟩

theorem isReadable_queries : ∀ op ∈ queries typeName, op.IsReadable := by
  have hself : isApiName typeName.toList = true := hnames _ List.mem_cons_self
  have hlist : ∃ code, IsTypeCode ("[" ++ typeName ++ "!]!") code := by
    have htext : "[" ++ (typeName ++ "!") ++ "]" ++ requiredMark true =
        "[" ++ typeName ++ "!]!" := by
      refine String.toList_inj.mp ?_
      simp [requiredMark]
    exact ⟨_, htext ▸ IsTypeCode.list (.marked hself) true⟩
  intro op hop
  simp only [queries, List.mem_cons, List.not_mem_nil, or_false] at hop
  rcases hop with rfl | rfl
  · exact ⟨hnames _ (by simp [apiNames]), fun a ha => absurd ha List.not_mem_nil, hlist⟩
  · exact ⟨hnames _ (by simp [apiNames]),
      fun a ha => isReadable_arguments hnames a (by simp_all), _, .plain hself⟩

theorem isReadable_mutations : ∀ op ∈ mutations typeName, op.IsReadable := by
  have hself : isApiName typeName.toList = true := hnames _ List.mem_cons_self
  have harguments := isReadable_arguments hnames
  intro op hop
  simp only [mutations, List.mem_cons, List.not_mem_nil, or_false] at hop
  rcases hop with rfl | rfl | rfl
  · exact ⟨hnames _ (by simp [apiNames]), fun a ha => harguments a (by simp_all), _,
      .plain hself⟩
  · exact ⟨hnames _ (by simp [apiNames]), harguments, _, .plain hself⟩
  · exact ⟨hnames _ (by simp [apiNames]), fun a ha => harguments a (by simp_all), _,
      .marked (x := "Boolean") (by decide)⟩

variable {model : FieldModel} (hmodel : ∀ f ∈ model.values, isApiName f.name.toList = true)
include hmodel

/-- The schema of a model whose input type shows a field is its four definitions. -/
theorem definitions?_apiSchema_of_ne_nil (hsome : model.inputFields ≠ []) :
    definitions? (apiSchema typeName model) =
      some [⟨"type", typeName, model.declared⟩,
        ⟨"input", typeName ++ "Input", model.inputFields.map (·.toOperation)⟩,
        ⟨"type", "Query", queries typeName⟩, ⟨"type", "Mutation", mutations typeName⟩] := by
  have hempty : Written [""] [] := by decide
  have hquery : Definition.isSound ⟨"type", "Query", queries typeName⟩ = true := by
    simp [Definition.isSound]
    decide
  have hmutation : Definition.isSound ⟨"type", "Mutation", mutations typeName⟩ = true := by
    simp [Definition.isSound]
    decide
  have hqueried := isPiece_braced hquery (List.cons_ne_nil _ _) (isReadable_queries hnames)
  have hchanging := isPiece_braced hmutation (List.cons_ne_nil _ _) (isReadable_mutations hnames)
  have hself : isApiName typeName.toList = true := hnames _ List.mem_cons_self
  have hpieces := List.Forall₂.cons ((isPiece_objectTypeLines hself hmodel).append hempty)
    (.cons ((isPiece_inputTypeLines hself hmodel hsome).append hempty)
      (.cons (hqueried.append hempty) (.cons hchanging .nil)))
  rw [apiSchema_eq_endLines]
  exact definitions?_of_pieces (List.cons_ne_nil _ _) hpieces

/-- A schema is none if its input type shows no field: nothing can be read behind the object
    type. -/
theorem definitions?_apiSchema_of_eq_nil (hnone : model.inputFields = []) :
    definitions? (apiSchema typeName model) = none := by
  have hself : isApiName typeName.toList = true := hnames _ List.mem_cons_self
  have hempty : Written [""] [] := by decide
  obtain ⟨code, x, more, hobject, hcode, hread⟩ :=
    (isPiece_objectTypeLines hself hmodel).append hempty
  have hfront := hobject.append (written_bareInput hself)
  rw [apiSchema_eq_endLines, hnone, List.flatten_cons, List.flatten_cons, ← List.append_assoc,
    ← List.append_assoc, List.append_assoc _ [""], endLines_append]
  have hnever : ∀ behind : List Token, somePieces? none definition? (.word x :: more ++
      ([.word "input", .word (typeName ++ "Input"), .mark '\x7b', .mark '\x7d'] ++ behind)) =
        none := fun behind =>
    somePieces?_eq_none_of_second (by simp) (hread _ (by simp)) (by simp)
      (definition?_bare "input" (typeName ++ "Input") behind)
  unfold definitions? apiTokens
  rw [hfront.tokens_append, List.filter_append, List.filter_append, hcode, filter_bare,
    List.append_assoc, hnever]
  rfl

/-- **The schema of a model is its four definitions**, with all their fields and nothing else, if
    its input type shows a field; otherwise it is none. -/
theorem definitions?_apiSchema :
    definitions? (apiSchema typeName model) =
      if model.inputFields = [] then none
      else some [⟨"type", typeName, model.declared⟩,
        ⟨"input", typeName ++ "Input", model.inputFields.map (·.toOperation)⟩,
        ⟨"type", "Query", queries typeName⟩, ⟨"type", "Mutation", mutations typeName⟩] := by
  split
  · exact definitions?_apiSchema_of_eq_nil hnames hmodel ‹_›
  · exact definitions?_apiSchema_of_ne_nil hnames hmodel ‹_›

end Schema

/-- **A schema begins with the name of its type**, whatever the model is. -/
theorem exists_tokens_apiSchema {typeName : String} (h : IsName typeName) (model : FieldModel) :
    ∃ more, tokens (apiSchema typeName model) =
      .word "type" :: .word typeName :: .mark '\x7b' :: more := by
  have hfirst : Reads .between ("type " ++ typeName ++ " \x7b")
      ([.word "type"] ++ .word typeName :: [.mark '\x7b']) .between := by
    have htype : Reads .between "type " [.word "type"] .between := by decide
    exact reads_spliced h htype (by decide) (by decide)
  have hbreak : Reads .between "\n" [] .between := by decide
  rw [apiSchema_eq_endLines, List.flatten_cons, objectTypeLines, braced, List.cons_append,
    List.cons_append, List.cons_append]
  exact ⟨_, by rw [← List.singleton_append, endLines_append, endLines_singleton,
    (hfirst.append hbreak).tokens_append]; rfl⟩

/-- **A schema whose type name is no API name is not read**, whatever the model is. -/
theorem definitions?_eq_none {typeName : String} (h : IsName typeName)
    (hname : isApiName typeName.toList = false) (model : FieldModel) :
    definitions? (apiSchema typeName model) = none := by
  obtain ⟨more, htokens⟩ := exists_tokens_apiSchema h model
  have hunsound : ∀ fields, Definition.isSound ⟨"type", typeName, fields⟩ = false := by
    intro fields
    unfold Definition.isSound
    rw [hname]
    rfl
  have hfirst : definition? (.word "type" :: .word typeName :: .mark '\x7b' ::
      more.filter isApiToken) = none := by
    rw [definition?]
    refine Option.bind_eq_none_iff.mpr fun (fields, rest) _ => ?_
    dsimp only
    rw [hunsound]
    rfl
  have hread : somePieces? none definition? (.word "type" :: .word typeName :: .mark '\x7b' ::
      more.filter isApiToken) = none := somePieces?_eq_none (by simp) hfirst
  have hcode : apiTokens (apiSchema typeName model) =
      .word "type" :: .word typeName :: .mark '\x7b' :: more.filter isApiToken := by
    unfold apiTokens
    rw [htokens]
    exact filter_firstLine "type" typeName more
  unfold definitions?
  rw [hcode, hread]
  rfl

/-- A key that is no API name, but ends its type and begins another one. -/
example :
    let key := "a: Int \x7d type Other \x7b b"
    definitions? (inputType "Order" ⟨[(key, ⟨key, .scalar .int, true, []⟩)], 1⟩) =
      some [⟨"input", "OrderInput", [⟨"a", [], "Int"⟩]⟩, ⟨"type", "Other", [⟨"b", [], "Int!"⟩]⟩] := by
  decide

end SampleSchema
