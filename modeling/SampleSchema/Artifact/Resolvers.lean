import SampleSchema.Artifact.Lines
import SampleSchema.Naming

/-!
# The resolver module

A module that answers each operation of the API from the model of the entity, which it imports. A
resolver takes the arguments of its operation out of the request by their names and calls one
method of the model. Looking up or updating a document that is not there is an error; deleting one
only reports that there was none.
-/

namespace SampleSchema

/-- What a resolver does with the model it calls. -/
inductive ResolverBody where
  /-- One expression. -/
  | expression (text : String)
  /-- The lines of a block, at their depth. -/
  | block (lines : List String)
  deriving DecidableEq, Repr

/-- The resolver of one operation. -/
structure Resolver where
  name : String
  /-- The arguments it takes out of the request. -/
  arguments : List String
  body : ResolverBody
  deriving DecidableEq, Repr

namespace Resolver

/-- The parameters: none, or the parent value, which is not used, and the arguments. -/
def parameterText (r : Resolver) : String :=
  if r.arguments.isEmpty then "" else "_, \x7b " ++ ", ".intercalate r.arguments ++ " \x7d"

/-- The beginning of a resolver, up to its body. -/
def head (r : Resolver) : String :=
  "    " ++ r.name ++ ": async (" ++ r.parameterText ++ ") => "

/-- The lines of a resolver. -/
def lines (r : Resolver) : List String :=
  match r.body with
  | .expression text => [r.head ++ text ++ ","]
  | .block body => (r.head ++ "\x7b") :: body ++ ["    \x7d,"]

end Resolver

/-- The lines that give back a document, or fail if there is none. -/
def foundOrFail (typeName : String) : List String :=
  ["      if (!result) throw new Error('" ++ typeName ++ " not found');", "      return result;"]

/-- The resolvers of the operations that look up documents. -/
def queryResolvers (typeName : String) : List Resolver :=
  [⟨collectionName typeName, [], .expression (typeName ++ ".find().lean()")⟩,
    ⟨valueName typeName, ["id"],
      .block (("      const result = await " ++ typeName ++ ".findById(id).lean();") ::
        foundOrFail typeName)⟩]

/-- The resolvers of the operations that change documents. -/
def mutationResolvers (typeName : String) : List Resolver :=
  [⟨"create" ++ typeName, ["input"], .expression (typeName ++ ".create(input)")⟩,
    ⟨"update" ++ typeName, ["id", "input"],
      .block (["      const result = await " ++ typeName ++ ".findByIdAndUpdate(", "        id,",
        "        input,", "        \x7b new: true, lean: true \x7d", "      );"] ++
        foundOrFail typeName)⟩,
    ⟨"delete" ++ typeName, ["id"],
      .block ["      const result = await " ++ typeName ++ ".findByIdAndDelete(id);",
        "      return !!result;"]⟩]

/-- A group of resolvers. -/
def resolverGroup (name : String) (resolvers : List Resolver) : List String :=
  ("  " ++ name ++ ": \x7b") :: resolvers.flatMap (·.lines) ++ ["  \x7d,"]

/-- The line that imports the model, from the directory of models two levels up. -/
def importLine (typeName : String) : String :=
  "import " ++ typeName ++ " from '../../models/" ++ typeName ++ ".js';"

/-- The lines of the resolver module. -/
def resolverLines (typeName : String) : List String :=
  [importLine typeName, "", "export default \x7b"] ++
    resolverGroup "Query" (queryResolvers typeName) ++
    resolverGroup "Mutation" (mutationResolvers typeName) ++ ["\x7d;"]

/-- **The resolver module of a type.** -/
def resolverModule (typeName : String) : String := endLines (resolverLines typeName)

end SampleSchema
