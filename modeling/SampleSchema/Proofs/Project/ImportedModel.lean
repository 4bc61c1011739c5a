import SampleSchema.Proofs.Artifact.Hygiene
import SampleSchema.Proofs.Path.Normal
import SampleSchema.Proofs.Project.Refusal

/-!
# Where the resolvers find the model

The resolver module of a type imports the model from a file that it names as seen from its own
directory, and that name is fixed but for the type: two directories back and into `models`. Where
the files are written, on the other hand, is a matter of the settings. Both lead to the same file
exactly if they lead to the same directory, which is a condition on the settings alone
(`Project.resolvers_find_model`). The standard directories meet it; directories that the settings
name otherwise need not (`Project.moved_model_not_found`).
-/

namespace SampleSchema

open Script

/-! ## 1. What a module imports -/

/-- The source from which a module imports something under one name, in its first statement. -/
def importedSource? (moduleText : String) : Option String :=
  match tokens moduleText with
  | .word "import" :: .word _ :: .word "from" :: .quoted source :: _ => some source
  | _ => none

/-- The file that a module imports from a source, if the module itself is in a file. -/
def Path.importedBy (file : Path) (source : String) : Path := (file.parent.child source).normal

section Accepted

variable {typeName : String} (h : typeNameFault? typeName = none)
include h

theorem importedSource?_resolverModule :
    importedSource? (resolverModule typeName) = some (modelSource typeName) := by
  unfold importedSource?
  rw [tokens_resolverModule h]
  rfl

/-- The source is the file of a model in a directory, seen from another one. -/
theorem ofText_modelSource :
    Path.ofText (modelSource typeName) =
      (Path.ofText "../../models").child (typeName ++ ".js") := by
  have hpart : IsPathPart (typeName ++ ".js") := (Project.isPathPart_file h (by decide)).1
  have hroot : ((Path.ofText "../../models").child (typeName ++ ".js")).root = .relative :=
    Path.root_child _ hpart
  have hparts : ((Path.ofText "../../models").child (typeName ++ ".js")).parts =
      ["..", "..", "models", typeName ++ ".js"] := by
    rw [Path.parts_child _ hpart]
    rfl
  have htext : ((Path.ofText "../../models").child (typeName ++ ".js")).text =
      modelSource typeName := by
    refine String.toList_inj.mp ?_
    unfold Path.text modelSource
    rw [hroot, hparts, if_neg nofun, String.toList_append, String.toList_intercalate]
    simp [PathRoot.text]
  rw [← htext, Path.ofText_text]

end Accepted

/-! ## 2. Files of a project -/

namespace Project

/-- **The resolvers find the model** exactly if the way from their directory two directories back
    and into `models` leads to the directory of the models. -/
theorem importedBy_resolvers_iff {output : OutputSettings} (hrelative : output.IsRelative)
    {typeName : String} (h : typeNameFault? typeName = none) (root : Path) :
    (targets ⟨root, output⟩ typeName).resolvers.importedBy (modelSource typeName) =
        (targets ⟨root, output⟩ typeName).model.normal ↔
      (root.join (output.resolvers.child "../../models")).normal =
        (root.join output.models).normal := by
  have hmodel : IsPathPart (typeName ++ ".js") ∧ typeName ++ ".js" ≠ ".." :=
    isPathPart_file h (by decide)
  have hresolver : IsPathPart (typeName ++ "Resolver.js") := (isPathPart_file h (by decide)).1
  have hdirectory : (targets ⟨root, output⟩ typeName).resolvers.parent =
      root.join output.resolvers :=
    Path.parent_child _ hresolver
  have hsource : (root.join output.resolvers).child (modelSource typeName) =
      (root.join (output.resolvers.child "../../models")).child (typeName ++ ".js") := by
    have hrelative' : (Path.ofText "../../models").root = .relative := rfl
    unfold Path.child
    rw [ofText_modelSource h, Path.join_child _ hrelative' hmodel.1,
      Path.join_join root hrelative.resolvers hrelative']
    rfl
  unfold Path.importedBy
  rw [hdirectory, hsource]
  exact Path.normal_child_iff hmodel.1 hmodel.2 _ _

/-- A directory `models`, seen from two levels below the directory that holds it. -/
theorem normal_beside (base : Path) {outer inner : String}
    (houter : IsPathPart outer ∧ outer ≠ "..") (hinner : IsPathPart inner ∧ inner ≠ "..") :
    (((base.child outer).child inner).child "../../models").normal =
      (base.child "models").normal := by
  have hmodels : IsPathPart "models" := by decide
  obtain ⟨hroot, hparts⟩ :
      (((base.child outer).child inner).child "../../models").root =
          ((base.child outer).child inner).root ∧
        (((base.child outer).child inner).child "../../models").parts =
          ((base.child outer).child inner).parts ++ ["..", "..", "models"] :=
    Path.join_of_relative _ rfl
  rw [Path.root_child _ hinner.1, Path.root_child base houter.1] at hroot
  rw [Path.parts_child _ hinner.1, Path.parts_child base houter.1, List.append_assoc,
    List.append_assoc] at hparts
  refine Path.eq_of_parts (hroot.trans (Path.root_child base hmodels).symm)
    (congrArg List.reverse ?_)
  show Path.follow (((base.child outer).child inner).child "../../models").root [] _ =
    Path.follow (base.child "models").root [] (base.child "models").parts
  rw [hroot, hparts, Path.root_child base hmodels, Path.parts_child base hmodels,
    Path.follow_append _ _ base.parts, Path.follow_append _ _ base.parts]
  exact Path.follow_there_and_back _ _ houter.2 hinner.2 ["models"]

/-- **Where the resolvers find the model.** The resolver module imports the model from a source that
    depends on the type name alone, and the model module goes where the settings say. With no ways
    back left in either path, the module that is imported is the one that is written exactly if the
    directory that the source names is the one that the settings name. Wherever the project is, it
    is so exactly if the two are the same as seen from the project directory. They are where the
    directory of models is `models` and that of resolvers lies two levels below the directory that
    holds it, as it is for the standard ones. -/
theorem resolvers_find_model {output : OutputSettings} (hrelative : output.IsRelative)
    {typeName : String} (h : typeNameFault? typeName = none) :
    let source := "../../models/" ++ typeName ++ ".js"
    let named := output.resolvers.child "../../models"
    let imported := fun root => (targets ⟨root, output⟩ typeName).resolvers.importedBy source
    let model := fun root => (targets ⟨root, output⟩ typeName).model.normal
    importedSource? (resolverModule typeName) = some source ∧
    (∀ root : Path, imported root = model root ↔
      (root.join named).normal = (root.join output.models).normal) ∧
    ((∀ root : Path, imported root = model root) ↔ named.normal = output.models.normal) ∧
    (∀ (base : Path) (outer inner : String), IsPathPart outer ∧ outer ≠ ".." →
      IsPathPart inner ∧ inner ≠ ".." → output.models = base.child "models" →
        output.resolvers = (base.child outer).child inner →
          ∀ root : Path, imported root = model root) := by
  intro source named imported model
  have hroot : ∀ root : Path, imported root = model root ↔
      (root.join named).normal = (root.join output.models).normal :=
    importedBy_resolvers_iff hrelative h
  have hnamed : named.root = .relative :=
    (output.resolvers.join_of_relative (p := .ofText "../../models") rfl).1.trans
      hrelative.resolvers
  have hall : (∀ root : Path, imported root = model root) ↔
      named.normal = output.models.normal :=
    (forall_congr' hroot).trans (Path.forall_normal_join_iff hnamed hrelative.models)
  refine ⟨importedSource?_resolverModule h, hroot, hall,
    fun base outer inner houter hinner hmodels hresolvers => hall.mpr ?_⟩
  show (output.resolvers.child "../../models").normal = output.models.normal
  rw [hmodels, hresolvers]
  exact normal_beside base houter hinner

theorem resolvers_find_model_order :
    ({} : OutputSettings).IsRelative ∧ typeNameFault? "Order" = none ∧
    importedSource? (resolverModule "Order") = some "../../models/Order.js" ∧
    ∀ root : Path,
      (targets ⟨root, {}⟩ "Order").resolvers.importedBy "../../models/Order.js" =
        (targets ⟨root, {}⟩ "Order").model.normal := by
  have hrelative : ({} : OutputSettings).IsRelative := ⟨rfl, rfl, rfl⟩
  have hname : typeNameFault? "Order" = none := by decide
  obtain ⟨hsource, _, _, hbeside⟩ := resolvers_find_model hrelative hname
  have hmodels : ({} : OutputSettings).models = (Path.ofText "src").child "models" := by decide
  have hresolvers : ({} : OutputSettings).resolvers =
      ((Path.ofText "src").child "graphql").child "resolvers" := by decide
  exact ⟨hrelative, hname, hsource,
    hbeside (.ofText "src") "graphql" "resolvers" (by decide) (by decide) hmodels hresolvers⟩

/-- Settings with the directory of models right below the project directory. -/
def movedModels : OutputSettings := { models := .ofText "models" }

/-- **A model in another directory is not found**: the resolvers still look for it where the
    standard directory would be. -/
theorem moved_model_not_found :
    movedModels.IsRelative ∧ typeNameFault? "User" = none ∧
    importedSource? (resolverModule "User") = some "../../models/User.js" ∧
    ((targets ⟨.ofText "proj", movedModels⟩ "User").resolvers.importedBy
      "../../models/User.js").text = "proj/src/models/User.js" ∧
    (targets ⟨.ofText "proj", movedModels⟩ "User").model.normal.text = "proj/models/User.js" := by
  have hname : typeNameFault? "User" = none := by decide
  exact ⟨⟨rfl, rfl, rfl⟩, hname, importedSource?_resolverModule hname, by decide, by decide⟩

end Project

end SampleSchema
