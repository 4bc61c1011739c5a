import SampleSchema.Proofs.Json.Characters
import SampleSchema.Proofs.Program.Outcome

/-!
# What a run changes

A run changes the file tree only if it ends with the files of a type written, or in the middle of
writing them (`Program.run_effect`). Everything else comes before the first file: help, words that
are no command, a sample file or a name that is refused, files that are there already, a preview.
-/

namespace SampleSchema

namespace Program

/-! ## 1. Imports -/

/-- What is generated for a name bears it. -/
theorem exists_of_generated {settings : InferenceSettings} {typeName : String} {samples : RawJson}
    {g : Generation} (h : generated settings typeName samples = .ok (some g)) :
    ∃ model, g = .ofModel typeName model := by
  unfold generated Generation.ofJson at h
  cases hsamples : samples.replaced.examinable settings with
  | error fault =>
    rw [hsamples] at h
    cases h
  | ok documents =>
    rw [hsamples] at h
    cases hkeys : keysAreTexts settings samples with
    | false =>
      rw [hkeys] at h
      cases h
    | true =>
      rw [hkeys] at h
      cases h
      exact ⟨_, rfl⟩

/-- Keys that are made of characters can be printed and written. -/
theorem keysAreTexts_raw (settings : InferenceSettings) (samples : Json) :
    keysAreTexts settings samples.raw = true := by
  have hdocument : ∀ v : Json,
      v.raw.members.all (fun entry => (CodePoint.text? entry.1).isSome) = true := by
    intro v
    rw [JsonOf.raw, JsonOf.members_mapTexts, JsonOf.mapMembers_eq, List.all_map, List.all_eq_true]
    intro entry _
    show (CodePoint.text? (CodePoint.ofText entry.1)).isSome = true
    rw [CodePoint.text?_ofText]
    rfl
  unfold keysAreTexts
  rw [List.all_eq_true]
  intro document hmem
  replace hmem := List.mem_of_mem_take hmem
  cases samples with
  | arr items =>
    have hitems : document ∈ items.map JsonOf.raw := JsonOf.mapItems_eq _ items ▸ hmem
    obtain ⟨v, _, rfl⟩ := List.mem_map.mp hitems
    exact hdocument v
  | null | bool _ | int _ | double _ | str _ | obj _ =>
    rw [List.mem_singleton.mp hmem]
    exact hdocument _

/-- For samples of texts of characters nothing else decides what is generated. -/
theorem generated_raw (settings : InferenceSettings) (typeName : String) (samples : Json) :
    generated settings typeName samples.raw =
      (Generation.ofJson typeName settings keepFirst samples).map fun g => some (Id.run g) := by
  unfold generated
  rw [JsonOf.replaced_raw, keysAreTexts_raw]
  cases Generation.ofJson (m := Id) typeName settings keepFirst samples <;> rfl

/-- **The files of a type imported into a project**, from the tree before to the tree after: samples
    were read, and no file was there that was not to be replaced; the three files hold what is
    generated, and nothing else changed but for directories on the way to them. -/
structure Imported (command : ImportCommand) (settings : Settings) (before after : FileTree)
    (samples : RawJson) (g : Generation) : Prop extends
    Ready command settings before samples (some g) where
  unopposed : command.force = true ∨
    ∀ p ∈ ((projectOf command settings).targets command.typeName).all, before.isThere p = .ok false
  written : FileTree.Written
    [(((projectOf command settings).targets command.typeName).model,
        modelModule command.typeName g.storage),
      (((projectOf command settings).targets command.typeName).typedefs, g.api),
      (((projectOf command settings).targets command.typeName).resolvers, g.resolvers)]
    ((projectOf command settings).targets command.typeName).all before after

theorem imported_of_write {command : ImportCommand} {settings : Settings} {tree tree' : FileTree}
    {samples : RawJson} {g : Generation} {files : List Path}
    (h : Ready command settings tree samples (some g))
    (hwrite : (projectOf command settings).write g command.force tree = .ok files tree') :
    Imported command settings tree tree' samples g := by
  obtain ⟨model, rfl⟩ := exists_of_generated h.made
  obtain ⟨hclear, _, hwritten⟩ := Project.written_of_write h.named hwrite
  exact ⟨h, Project.isThere_of_obstacle? hclear, hwritten⟩

/-! ## 2. Runs -/

section Runs

variable {command : ImportCommand} {settings : Settings} {session : Session}
  {result : EStateM.Result Failure Session Nat}

/-- A preview changes nothing, however it ends. -/
theorem Imports.tree_of_preview (h : Imports command settings session result)
    (hpreview : command.preview = true) : (stateLeft result).tree = session.tree := by
  cases h with
  | fileRefused | tooManyDigits | fileFailed | nameRefused | notScanned => rfl
  | previewed | notPrinted => rfl
  | filesRefused _ hno => exact absurd hpreview (by simp [hno])
  | filesOutside _ hno => exact absurd hpreview (by simp [hno])
  | notWritten _ hno => exact absurd hpreview (by simp [hno])
  | notEncoded _ hno => exact absurd hpreview (by simp [hno])
  | writtenOutside _ hno => exact absurd hpreview (by simp [hno])
  | written _ hno => exact absurd hpreview (by simp [hno])

/-- An import that ends with a code other than 0 changes nothing. -/
theorem Imports.tree_of_code {code : Nat} {session' : Session}
    (h : Imports command settings session (.ok code session')) (hcode : code ≠ 0) :
    session'.tree = session.tree := by
  cases h with
  | fileRefused | nameRefused | filesRefused => rfl
  | previewed => rfl
  | written => exact absurd rfl hcode

/-- An import that ends with the code 0 and is no preview has written the files of its type. -/
theorem Imports.imported {session' : Session}
    (h : Imports command settings session (.ok 0 session')) (hpreview : command.preview = false) :
    ∃ samples g, Imported command settings session.tree session'.tree samples g := by
  cases h with
  | previewed _ hyes => exact absurd hyes (by simp [hpreview])
  | written hready _ hwrite _ => exact ⟨_, _, imported_of_write hready hwrite⟩

end Runs

/-- **The effect of a run on the tree**, for all words, environments and trees. A run that ends with
    a code other than 0 or with help changes nothing, and no preview does. A run that is no preview
    and ends with the code 0 has imported the files of its type, and nothing else changed. -/
theorem run_effect (screen : Screen) (words : List String) (env : Environment) (tree : FileTree) :
    (∀ code session, run screen words env tree = .ok code session →
      (code ≠ 0 ∨ ∃ scope, Request.ofWords words = .help scope) → session.tree = tree) ∧
    (∀ command, Request.ofWords words = .run command →
      (command.preview = true → (stateLeft (run screen words env tree)).tree = tree) ∧
      (command.preview = false → ∀ session, run screen words env tree = .ok 0 session →
        ∃ settings samples g, env.settings = .ok settings ∧
          Imported command settings tree session.tree samples g)) := by
  rcases run_cases screen words env tree with
    ⟨scope, out, hwords, hrun⟩ | ⟨fault, err, hwords, hrun⟩ | ⟨command, hwords, himport⟩
  · rw [hwords, hrun]
    refine ⟨fun code session h _ => ?_, fun command h => ?_⟩
    · cases h
      rfl
    · cases h
  · rw [hwords, hrun]
    refine ⟨fun code session h _ => ?_, fun command h => ?_⟩
    · cases h
      rfl
    · cases h
  · rw [hwords]
    rcases himport with ⟨fault, hfault, hrun⟩ | ⟨settings, hsettings, hrun⟩
    · rw [hrun]
      refine ⟨fun code session h => ?_, fun other h => ⟨fun _ => rfl, fun _ session h' => ?_⟩⟩
      · cases h
      · cases h'
    · rw [hrun]
      have h := imports_importSamples screen command settings { tree := tree }
      refine ⟨fun code session hok hend => ?_, fun other hother => ?_⟩
      · rw [hok] at h
        refine h.tree_of_code ?_
        rcases hend with hcode | ⟨scope, hhelp⟩
        · exact hcode
        · cases hhelp
      · cases hother
        refine ⟨h.tree_of_preview, fun hpreview session hok => ?_⟩
        rw [hok] at h
        obtain ⟨samples, g, himported⟩ := h.imported hpreview
        exact ⟨settings, samples, g, hsettings, himported⟩

/-- A tree with a file of samples. -/
def ordersTree : FileTree :=
  (FileTree.empty.insert? "orders.json" [] (.file (Utf8.encode "[\x7b\"total\": 3\x7d]".toList))).getD
    .empty

/-- The import of that file, with nothing else asked for. -/
def ordersCommand : ImportCommand := { file := "orders.json" }

/-- What is generated for it. -/
def ordersTexts : Generation :=
  .ofModel "Orders" (FieldModel.ofSamples (m := Id) .standard keepFirst [.obj [("total", .int 3)]])

theorem eq_ok_of_toOption {ε α : Type} {x : Except ε α} {a : α} (h : x.toOption = some a) :
    x = .ok a := by
  cases x with
  | ok b => exact congrArg Except.ok (Option.some.inj h)
  | error e => cases h

theorem settings_nil : Environment.settings [] = .ok {} := by
  have h : (Environment.settings []).toOption = some {} := by decide +kernel
  exact eq_ok_of_toOption h

/-- The samples in that file. -/
def orders : RawJson := .arr [.obj [(CodePoint.ofText "total", .int 3)]]

/-- Is a value the list of samples in that file? -/
def isOrders : RawJson → Bool
  | .arr [.obj [(key, .int 3)]] => decide (key = CodePoint.ofText "total")
  | _ => false

theorem eq_of_isOrders {v : RawJson} (h : isOrders v = true) : v = orders := by
  unfold isOrders at h
  split at h
  · rw [of_decide_eq_true h]
    rfl
  · cases h

theorem ready_ordersTree : Ready ordersCommand {} ordersTree orders (some ordersTexts) := by
  have hname : ordersCommand.typeName = "Orders" := by decide +kernel
  have hread : (readSamples ordersTree ordersCommand.file).toOption.any isOrders = true := by
    decide +kernel
  refine ⟨?_, ?_, ?_⟩
  · obtain ⟨v, hv, horders⟩ := (Option.any_eq_true _ _).mp hread
    rw [eq_of_isOrders horders] at hv
    exact eq_ok_of_toOption hv
  · rw [hname]
    decide +kernel
  · rw [hname]
    exact generated_raw .standard "Orders" (.arr [.obj [("total", .int 3)]])

theorem exists_importSamples_ordersTree (screen : Screen) : ∃ out tree,
    importSamples screen ordersCommand {} { tree := ordersTree } =
      .ok 0 { tree := tree, out := out } := by
  have hwrite : (given? ((projectOf ordersCommand {}).write ordersTexts false ordersTree)).any
      (fun files => (Project.seenFrom (ordersCommand.root {}) files).toOption.isSome) = true := by
    rw [Project.write_eq]
    decide +kernel
  obtain ⟨files, hgiven, hsome⟩ := (Option.any_eq_true _ _).mp hwrite
  obtain ⟨tree, hfiles⟩ := exists_ok_of_given? hgiven
  obtain ⟨near, hseen⟩ := Option.isSome_iff_exists.mp hsome
  obtain ⟨out, h⟩ := exists_importSamples screen ready_ordersTree rfl hfiles
    (eq_ok_of_toOption hseen)
  exact ⟨out, tree, h⟩

/-- The import of orders ends with the code 0 and with their three files written; words without a
    file change nothing. -/
theorem run_effect_ordersTree :
    (∃ session, run (.plain 80) ["import"] [] ordersTree = .ok 2 session ∧
      session.tree = ordersTree) ∧
    Request.ofWords ["import", "orders.json"] = .run ordersCommand ∧
    ∃ session settings samples g,
      run (.plain 80) ["import", "orders.json"] [] ordersTree = .ok 0 session ∧
      Environment.settings [] = .ok settings ∧
      Imported ordersCommand settings ordersTree session.tree samples g := by
  have hwords : Request.ofWords ["import", "orders.json"] = .run ordersCommand := by decide +kernel
  have hrefused : Request.ofWords ["import"] = .refused ⟨.importCommand, .required "file"⟩ := by
    decide +kernel
  refine ⟨?_, hwords, ?_⟩
  · have hrun : ∃ session, run (.plain 80) ["import"] [] ordersTree = .ok 2 session := by
      unfold run
      rw [hrefused]
      exact ⟨_, rfl⟩
    obtain ⟨session, hrun⟩ := hrun
    exact ⟨session, hrun,
      (run_effect (.plain 80) ["import"] [] ordersTree).1 2 session hrun (Or.inl (by decide))⟩
  · obtain ⟨out, tree, himport⟩ := exists_importSamples_ordersTree (.plain 80)
    have hrun : run (.plain 80) ["import", "orders.json"] [] ordersTree =
        .ok 0 { tree := tree, out := out } := by
      unfold run
      rw [hwords]
      unfold perform
      rw [settings_nil]
      exact himport
    obtain ⟨settings, samples, g, hsettings, himported⟩ :=
      ((run_effect (.plain 80) ["import", "orders.json"] [] ordersTree).2 ordersCommand hwords).2
        rfl _ hrun
    exact ⟨_, settings, samples, g, hrun, hsettings, himported⟩

end Program

end SampleSchema
