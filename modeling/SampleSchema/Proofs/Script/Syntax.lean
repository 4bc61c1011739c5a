import Mathlib.Tactic.SplitIfs
import SampleSchema.Proofs.Script.Token

/-!
# Syntax and scopes of a module

The part of the module language that the generated modules are written in: a module imports one
name and exports an object, whose members are objects of functions; a function takes parameters, by
name or out of the fields of a value, and gives an expression or runs statements. Each piece of
syntax has its TOKENS, the code that it is.

A name that is used in a function is BOUND by the nearest of four: a declaration among its
statements, a parameter, the import of the module, or else it is a global (`Module.bindingOf`). So
the import is what a name stands for exactly if nothing in the function binds the same name
(`Module.bindingOf_eq_imported_iff`), and a global is one only if it is not imported as well
(`Module.bindingOf_eq_global_iff`).
-/

namespace SampleSchema

namespace Script

/-! ## 1. Syntax -/

/-- An expression. -/
inductive Expression where
  | name (x : String)
  | quoted (text : String)
  /-- An object of properties with words as values. -/
  | options (properties : List (String × String))
  | member (object : Expression) (property : String)
  | call (callee : Expression) (arguments : List Expression)
  | construct (callee : Expression) (arguments : List Expression)
  | negated (e : Expression)
  | awaited (e : Expression)

/-- A statement of a function. -/
inductive Statement where
  | declare (x : String) (value : Expression)
  | throwIf (condition fault : Expression)
  | giveBack (value : Expression)

/-- A parameter: a name for what is given, or names for fields of it. -/
inductive Pattern where
  | name (x : String)
  | fields (xs : List String)
  deriving DecidableEq, Repr

/-- What a function does. -/
inductive Body where
  | value (e : Expression)
  | block (statements : List Statement)

/-- A function without a name of its own. -/
structure Arrow where
  parameters : List Pattern
  body : Body

/-- A module with one import. -/
structure Module where
  imported : String
  source : String
  /-- The objects of the exported one, each with its functions. -/
  objects : List (String × List (String × Arrow))

/-! ## 2. Tokens -/

/-- Pieces of code with commas between them. -/
def separated : List (List Token) → List Token
  | [] => []
  | [piece] => piece
  | piece :: rest => piece ++ .mark ',' :: separated rest

mutual

/-- The code of an expression. -/
def Expression.tokens : Expression → List Token
  | .name x => [.word x]
  | .quoted text => [.quoted text]
  | .options properties =>
    .mark '\x7b' :: separated (properties.map fun (name, value) =>
      [.word name, .mark ':', .word value]) ++ [.mark '\x7d']
  | .member object property => object.tokens ++ [.mark '.', .word property]
  | .call callee arguments =>
    callee.tokens ++ .mark '(' :: separated (codes arguments) ++ [.mark ')']
  | .construct callee arguments =>
    .word "new" :: callee.tokens ++ .mark '(' :: separated (codes arguments) ++ [.mark ')']
  | .negated e => .mark '!' :: e.tokens
  | .awaited e => .word "await" :: e.tokens

/-- The code of each of some expressions. -/
def codes : List Expression → List (List Token)
  | [] => []
  | e :: rest => e.tokens :: codes rest

end

/-- The code of a statement. -/
def Statement.tokens : Statement → List Token
  | .declare x value => .word "const" :: .word x :: .mark '=' :: value.tokens ++ [.mark ';']
  | .throwIf condition fault =>
    .word "if" :: .mark '(' :: condition.tokens ++ .mark ')' :: .word "throw" :: fault.tokens ++
      [.mark ';']
  | .giveBack value => .word "return" :: value.tokens ++ [.mark ';']

/-- The code of a parameter. -/
def Pattern.tokens : Pattern → List Token
  | .name x => [.word x]
  | .fields xs => .mark '\x7b' :: separated (xs.map fun x => [.word x]) ++ [.mark '\x7d']

/-- The code of a body. -/
def Body.tokens : Body → List Token
  | .value e => e.tokens
  | .block statements => .mark '\x7b' :: statements.flatMap (·.tokens) ++ [.mark '\x7d']

/-- The code of a function. -/
def Arrow.tokens (f : Arrow) : List Token :=
  .word "async" :: .mark '(' :: separated (f.parameters.map (·.tokens)) ++
    .mark ')' :: .mark '=' :: .mark '>' :: f.body.tokens

/-- The code of a function under a name, as a member of an object. -/
def memberTokens (m : String × Arrow) : List Token :=
  .word m.1 :: .mark ':' :: m.2.tokens ++ [.mark ',']

/-- The code of an object of functions under a name. -/
def objectTokens (o : String × List (String × Arrow)) : List Token :=
  .word o.1 :: .mark ':' :: .mark '\x7b' :: o.2.flatMap memberTokens ++ [.mark '\x7d', .mark ',']

/-- The code of an import. -/
def importTokens (x source : String) : List Token :=
  [.word "import", .word x, .word "from", .quoted source, .mark ';']

/-- **The code of a module.** -/
def Module.tokens (m : Module) : List Token :=
  importTokens m.imported m.source ++ .word "export" :: .word "default" :: .mark '\x7b' ::
    m.objects.flatMap objectTokens ++ [.mark '\x7d', .mark ';']

/-! ## 3. Names that are used -/

/-- What a name is used for. -/
inductive Use where
  | receiver (method : String)
  | constructor
  | value
  deriving DecidableEq, Repr

/-- A name that is used. -/
structure Reference where
  name : String
  use : Use
  deriving DecidableEq, Repr

mutual

/-- The names that an expression uses, in order. -/
def Expression.references : Expression → List Reference
  | .name x => [⟨x, .value⟩]
  | .quoted _ => []
  | .options _ => []
  | .member (.name x) property => [⟨x, .receiver property⟩]
  | .member object _ => object.references
  | .call callee arguments => callee.references ++ referencesOf arguments
  | .construct (.name x) arguments => ⟨x, .constructor⟩ :: referencesOf arguments
  | .construct callee arguments => callee.references ++ referencesOf arguments
  | .negated e => e.references
  | .awaited e => e.references

/-- The names that some expressions use. -/
def referencesOf : List Expression → List Reference
  | [] => []
  | e :: rest => e.references ++ referencesOf rest

end

/-- The names that a statement uses. -/
def Statement.references : Statement → List Reference
  | .declare _ value => value.references
  | .throwIf condition fault => condition.references ++ fault.references
  | .giveBack value => value.references

/-- The names that a function uses. -/
def Arrow.references (f : Arrow) : List Reference :=
  match f.body with
  | .value e => e.references
  | .block statements => statements.flatMap (·.references)

/-- The functions of a module. -/
def Module.functions (m : Module) : List Arrow := m.objects.flatMap fun o => o.2.map (·.2)

/-- A name that a function uses. -/
structure Usage where
  function : Arrow
  name : String
  use : Use

/-- The names that the functions of a module use, in order. -/
def Module.usages (m : Module) : List Usage :=
  m.functions.flatMap fun f => f.references.map fun r => ⟨f, r.name, r.use⟩

/-- Is it a method of a name that is used? -/
def Use.isReceiver : Use → Bool
  | .receiver _ => true
  | _ => false

/-- The names of which a module uses methods. -/
def Module.receivers (m : Module) : List Usage := m.usages.filter (·.use.isReceiver)

/-- The names of which a module constructs values. -/
def Module.constructed (m : Module) : List Usage := m.usages.filter (·.use = .constructor)

/-! ## 4. Scopes -/

/-- The names that a parameter binds. -/
def Pattern.names : Pattern → List String
  | .name x => [x]
  | .fields xs => xs

/-- The name that a statement declares, for the whole block. -/
def Statement.declared? : Statement → Option String
  | .declare x _ => some x
  | _ => none

/-- The names that the parameters of a function bind. -/
def Arrow.parameterNames (f : Arrow) : List String := f.parameters.flatMap (·.names)

/-- The names that a function declares. -/
def Arrow.declaredNames (f : Arrow) : List String :=
  match f.body with
  | .value _ => []
  | .block statements => statements.filterMap (·.declared?)

/-- **The names that a function binds.** -/
def Arrow.bound (f : Arrow) : List String := f.parameterNames ++ f.declaredNames

/-- What binds a name. -/
inductive Binding where
  | declaration
  | parameter
  | imported
  | global
  deriving DecidableEq, Repr

/-- **What binds a name that is used in a module**: the nearest that binds it. -/
def Module.bindingOf (m : Module) (u : Usage) : Binding :=
  if u.name ∈ u.function.declaredNames then .declaration
  else if u.name ∈ u.function.parameterNames then .parameter
  else if u.name = m.imported then .imported
  else .global

section Bindings

variable (m : Module) (u : Usage)

theorem Module.bindingOf_eq_imported_iff :
    m.bindingOf u = .imported ↔ u.name ∉ u.function.bound ∧ u.name = m.imported := by
  unfold Module.bindingOf Arrow.bound
  rw [List.mem_append]
  split_ifs with hdeclared hparameter himported
  · simp [hdeclared]
  · simp [hparameter]
  · exact iff_of_true rfl ⟨not_or.mpr ⟨hparameter, hdeclared⟩, himported⟩
  · simp [himported]

theorem Module.bindingOf_eq_global_iff :
    m.bindingOf u = .global ↔ u.name ∉ u.function.bound ∧ u.name ≠ m.imported := by
  unfold Module.bindingOf Arrow.bound
  rw [List.mem_append]
  split_ifs with hdeclared hparameter himported
  · simp [hdeclared]
  · simp [hparameter]
  · simp [himported]
  · exact iff_of_true rfl ⟨not_or.mpr ⟨hparameter, hdeclared⟩, himported⟩

end Bindings

end Script

end SampleSchema
