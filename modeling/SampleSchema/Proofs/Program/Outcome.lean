import SampleSchema.Program
import SampleSchema.Proofs.Console.Printed
import SampleSchema.Proofs.Project.Writing

/-!
# What a run comes to

Printing never fails and never touches the tree, so what a run comes to is decided by the sample
file, the name and the project alone. `Program.Imports` lists all there is, and every run is one of
its cases (`imports_importSamples`): a refusal with the code 1, a failure, or what is generated on
its way to the console or to the project.
-/

namespace SampleSchema

namespace Program

variable (screen : Screen)

/-! ## 1. Printing -/

/-- Texts that are printed are reported, and nothing but the output changes. -/
theorem exists_reportAll {texts : List Printed} (h : ∀ t ∈ texts, ∃ out, t = .ok out)
    (session : Session) : ∃ out, reportAll texts session = .ok () { session with out := out } := by
  induction texts generalizing session with
  | nil => exact ⟨session.out, rfl⟩
  | cons t texts ih =>
    obtain ⟨text, rfl⟩ := h t List.mem_cons_self
    have hmore := ih fun u hu => h u (List.mem_cons_of_mem _ hu)
    exact hmore { session with out := session.out ++ text }

/-- Texts reported before a code is given. -/
theorem exists_reportAll_code {texts : List Printed} (h : ∀ t ∈ texts, ∃ out, t = .ok out)
    (code : Nat) (session : Session) :
    ∃ out, (do reportAll texts; pure code : RunAction Nat) session =
      .ok code { session with out := out } := by
  obtain ⟨out, hout⟩ := exists_reportAll h session
  refine ⟨out, ?_⟩
  show EStateM.bind (reportAll texts) (fun _ => pure code) session = _
  unfold EStateM.bind
  rw [hout]
  rfl

/-- **A refusal** is a message and the code 1. -/
theorem exists_refuse (reason : String) (session : Session) :
    ∃ out, refuse screen reason session = .ok 1 { session with out := out } := by
  obtain ⟨text, htext⟩ : ∃ text, Console.error screen ("Import failed: " ++ reason) = .ok text :=
    Console.exists_styled screen (by decide) _
  refine ⟨session.out ++ text, ?_⟩
  unfold refuse
  rw [htext]
  rfl

theorem printed_wrongNameTexts (typeName : String) (fault : TypeNameFault) :
    ∀ t ∈ wrongNameTexts screen typeName fault, ∃ out, t = .ok out := by
  have hyellow : Markup.isStyle "yellow".toList = true := by decide
  have hdim : Markup.isStyle "dim".toList = true := by decide
  have hderived : "" ++ "[" ++ "yellow" ++ "]" ++ "Derived name: \"" ++
      Console.literal typeName ++ "\"" ++ "[/" ++ "yellow" ++ "]" =
      "[yellow]Derived name: \"" ++ Console.literal typeName ++ "\"[/yellow]" := by
    refine String.toList_inj.mp ?_
    simp
  have hhint : "[" ++ "dim" ++ "]" ++ "Use --name to specify a custom name" ++ "[/" ++ "dim" ++
      "]" = "[dim]Use --name to specify a custom name[/dim]" := by decide
  unfold wrongNameTexts
  rw [← hderived, ← hhint]
  refine List.forall_mem_cons.mpr ⟨Console.exists_styled screen (by decide) _, ?_⟩
  refine List.forall_mem_cons.mpr ⟨Console.exists_markup screen ?_, ?_⟩
  · exact Markup.isPrinted_styled_literal hyellow _ _ _ _ (by decide) (by decide) (by decide)
  · refine List.forall_mem_cons.mpr ⟨Console.exists_markup screen ?_, List.forall_mem_nil _⟩
    exact Markup.isPrinted_styled_plain hdim (by decide)

theorem printed_previewTexts (g : Generation) :
    ∀ t ∈ previewTexts screen g, ∃ out, t = .ok out := by
  simp only [previewTexts, List.forall_mem_cons]
  refine ⟨?_, ?_, ?_, ?_, ⟨_, rfl⟩, ?_, ⟨_, rfl⟩, ⟨_, rfl⟩, ?_, List.forall_mem_nil _⟩
  · exact Console.exists_styled screen (by decide) _
  · exact Console.exists_summaryTable screen (Markup.isPrinted_of_plain (by decide)) _
  · exact Console.exists_fieldsTable screen (Markup.isPrinted_of_plain (by decide)) _
  · exact Console.exists_heading screen (by decide)
  · exact Console.exists_heading screen (by decide)
  · exact Console.exists_styled screen (by decide) _

theorem exists_fileLine (file : Path) : ∃ out, fileLine screen file = .ok out := by
  have hcyan : Markup.isStyle "cyan".toList = true := by decide
  have hline : "  " ++ "[" ++ "cyan" ++ "]" ++ "- " ++ Console.literal file.text ++ "" ++ "[/" ++
      "cyan" ++ "]" = "  [cyan]- " ++ Console.literal file.text ++ "[/cyan]" := by
    refine String.toList_inj.mp ?_
    simp
  unfold fileLine
  rw [← hline]
  refine Console.exists_markup screen ?_
  exact Markup.isPrinted_styled_literal hcyan _ _ _ _ (by decide) (by decide) (by decide)

theorem printed_importedTexts (g : Generation) (files : List Path) :
    ∀ t ∈ importedTexts screen g files, ∃ out, t = .ok out := by
  have hbold : Markup.isStyle "bold".toList = true := by decide
  have hcreated : "[" ++ "bold" ++ "]" ++ "Files created:" ++ "[/" ++ "bold" ++ "]" =
      "[bold]Files created:[/bold]" := by decide
  unfold importedTexts
  rw [← hcreated]
  simp only [List.forall_mem_append, List.forall_mem_cons]
  refine ⟨⟨⟨?_, ?_, ?_, List.forall_mem_nil _⟩, fun t ht => ?_⟩, ⟨_, rfl⟩, ?_, ?_,
    List.forall_mem_nil _⟩
  · exact Console.exists_styled screen (by decide) _
  · exact Console.exists_summaryTable screen (Markup.isPrinted_of_plain (by decide)) _
  · exact Console.exists_markup screen (Markup.isPrinted_styled_plain hbold (by decide))
  · obtain ⟨file, _, rfl⟩ := List.mem_map.mp ht
    exact exists_fileLine screen file
  · exact Console.exists_fieldsTable screen (Markup.isPrinted_of_plain (by decide)) _
  · exact Console.exists_styled screen (by decide) _

/-- Showing what is generated ends with the code 0. -/
theorem exists_preview (g : Generation) (session : Session) :
    ∃ out, preview screen g session = .ok 0 { session with out := out } :=
  exists_reportAll_code (printed_previewTexts screen g) 0 session

/-! ## 2. The import command -/

/-- **Everything is there for a type**: samples, an accepted name, and what is generated for it, if
    it can be printed and written. -/
structure Ready (command : ImportCommand) (settings : Settings) (tree : FileTree)
    (samples : RawJson) (made : Option Generation) : Prop where
  read : readSamples tree command.file = .ok samples
  named : typeNameFault? command.typeName = none
  made : generated settings.inference command.typeName samples = .ok made

/-- The project that a command is about. -/
def projectOf (command : ImportCommand) (settings : Settings) : Project :=
  ⟨command.root settings, settings.output⟩

/-- The texts that a command writes for what is generated. -/
def artifactsOf (command : ImportCommand) : Option Generation → Artifacts
  | some g => g.artifacts
  | none => unencodable command.typeName

/-- **What the import command comes to**, from a session on. -/
inductive Imports (command : ImportCommand) (settings : Settings) (session : Session) :
    EStateM.Result Failure Session Nat → Prop
  | fileRefused {fault : SampleFault} {out : String}
      (h : readSamples session.tree command.file = .error (.refused fault)) :
      Imports command settings session (.ok 1 { session with out := out })
  | tooManyDigits {count : Nat}
      (h : readSamples session.tree command.file = .error (.tooManyDigits count)) :
      Imports command settings session (.error (.tooManyDigits count) session)
  | fileFailed {fault : FileFault}
      (h : readSamples session.tree command.file = .error (.file fault)) :
      Imports command settings session (.error (.file fault) session)
  | nameRefused {samples : RawJson} {fault : TypeNameFault} {out : String}
      (h : readSamples session.tree command.file = .ok samples)
      (hname : typeNameFault? command.typeName = some fault) :
      Imports command settings session (.ok 1 { session with out := out })
  | notScanned {samples : RawJson} {fault : ScanFault}
      (h : readSamples session.tree command.file = .ok samples)
      (hname : typeNameFault? command.typeName = none)
      (hscan : generated settings.inference command.typeName samples = .error fault) :
      Imports command settings session (.error (.scan fault) session)
  | previewed {samples : RawJson} {g : Generation} {out : String}
      (h : Ready command settings session.tree samples (some g))
      (hpreview : command.preview = true) :
      Imports command settings session (.ok 0 { session with out := out })
  | notPrinted {samples : RawJson} (h : Ready command settings session.tree samples none)
      (hpreview : command.preview = true) :
      Imports command settings session (.error .encoding session)
  | filesRefused {samples : RawJson} {made : Option Generation} {typeName : String}
      {files : List Path} {out : String} (h : Ready command settings session.tree samples made)
      (hpreview : command.preview = false)
      (hwrite : (projectOf command settings).writeArtifacts (artifactsOf command made)
        command.force session.tree = .error (.alreadyThere typeName files) session.tree) :
      Imports command settings session (.ok 1 { session with out := out })
  | filesOutside {samples : RawJson} {made : Option Generation} {path root : Path}
      (h : Ready command settings session.tree samples made) (hpreview : command.preview = false)
      (hwrite : (projectOf command settings).writeArtifacts (artifactsOf command made)
        command.force session.tree = .error (.outside path root) session.tree) :
      Imports command settings session (.error (.outside path root) session)
  | notWritten {samples : RawJson} {made : Option Generation} {fault : FileFault}
      {tree : FileTree} (h : Ready command settings session.tree samples made)
      (hpreview : command.preview = false)
      (hwrite : (projectOf command settings).writeArtifacts (artifactsOf command made)
        command.force session.tree = .error (.file fault) tree) :
      Imports command settings session (.error (.file fault) { session with tree := tree })
  | notEncoded {samples : RawJson} {made : Option Generation} {fault : EncodingFault}
      {tree : FileTree} (h : Ready command settings session.tree samples made)
      (hpreview : command.preview = false)
      (hwrite : (projectOf command settings).writeArtifacts (artifactsOf command made)
        command.force session.tree = .error (.encoding fault) tree) :
      Imports command settings session (.error .encoding { session with tree := tree })
  | writtenOutside {samples : RawJson} {g : Generation} {files : List Path} {path : Path}
      {tree : FileTree} (h : Ready command settings session.tree samples (some g))
      (hpreview : command.preview = false)
      (hwrite : (projectOf command settings).write g command.force session.tree = .ok files tree)
      (hseen : Project.seenFrom (command.root settings) files = .error path) :
      Imports command settings session
        (.error (.outside path (command.root settings)) { session with tree := tree })
  | written {samples : RawJson} {g : Generation} {files near : List Path} {tree : FileTree}
      {out : String} (h : Ready command settings session.tree samples (some g))
      (hpreview : command.preview = false)
      (hwrite : (projectOf command settings).write g command.force session.tree = .ok files tree)
      (hseen : Project.seenFrom (command.root settings) files = .ok near) :
      Imports command settings session (.ok 0 { session with tree := tree, out := out })

section Imports

variable (command : ImportCommand) (settings : Settings) (session : Session) {samples : RawJson}

/-- An attempt to write is one of the cases, if what it goes on with is. -/
theorem imports_write (made : Option Generation) {goOn : List Path → RunAction Nat}
    (h : Ready command settings session.tree samples made) (hpreview : command.preview = false)
    (hgoOn : ∀ files tree, (projectOf command settings).writeArtifacts (artifactsOf command made)
      command.force session.tree = .ok files tree →
        Imports command settings session (goOn files { session with tree := tree })) :
    Imports command settings session
      (write screen (projectOf command settings) (artifactsOf command made) command.force goOn
        session) := by
  unfold write
  cases hwrite : (projectOf command settings).writeArtifacts (artifactsOf command made)
    command.force session.tree with
  | ok files tree => exact hgoOn files tree hwrite
  | error fault tree =>
    -- what is no fault of writing leaves the tree
    have hsame : (∀ cause, fault ≠ .ofRawText cause) → tree = session.tree :=
      Project.eq_of_writeArtifacts_error hwrite
    cases fault with
    | outside path root =>
      obtain rfl : tree = session.tree := hsame fun cause => by
        cases cause <;> simp [WriteFault.ofRawText]
      exact .filesOutside h hpreview hwrite
    | file fault => exact .notWritten h hpreview hwrite
    | encoding fault => exact .notEncoded h hpreview hwrite
    | alreadyThere typeName files =>
      obtain rfl : tree = session.tree := hsame fun cause => by
        cases cause <;> simp [WriteFault.ofRawText]
      obtain ⟨out, hout⟩ :=
        exists_refuse screen (WriteFault.alreadyThere typeName files).message session
      show Imports command settings session (refuse screen _ session)
      rw [hout]
      exact .filesRefused h hpreview hwrite

/-- Texts of which the first cannot be encoded are never written. -/
theorem unencodable_not_written (project : Project) (typeName : String) (force : Bool)
    (tree tree' : FileTree) (files : List Path) :
    project.writeArtifacts (unencodable typeName) force tree ≠ .ok files tree' := by
  have hmodel : Utf8.encodeRaw (unencodable typeName).model = .error ⟨0, 1, 0⟩ := rfl
  rw [Project.writeArtifacts_of_encodeRaw project hmodel]
  cases project.obstacle? tree (unencodable typeName).typeName force with
  | some fault => exact fun h => nomatch h
  | none =>
    cases FileTree.writeText (project.targets (unencodable typeName).typeName).model "" tree with
    | ok u opened => exact fun h => nomatch h
    | error fault tree' => exact fun h => nomatch h

/-- What cannot be encoded is neither shown nor written. -/
theorem imports_deliver_none (h : Ready command settings session.tree samples none) :
    Imports command settings session (deliver screen command settings none session) := by
  unfold deliver
  dsimp only
  cases hpreview : command.preview with
  | true =>
    rw [if_pos rfl]
    exact .notPrinted h hpreview
  | false =>
    rw [if_neg Bool.false_ne_true]
    have hnever : ∀ files tree, (projectOf command settings).writeArtifacts
        (artifactsOf command none) command.force session.tree ≠ .ok files tree :=
      fun files tree => unencodable_not_written _ command.typeName _ _ tree files
    exact imports_write screen command settings session none h hpreview fun files tree hwrite =>
      absurd hwrite (hnever files tree)

/-- What is generated is shown, or written and then reported. -/
theorem imports_deliver_some {g : Generation}
    (h : Ready command settings session.tree samples (some g)) :
    Imports command settings session (deliver screen command settings (some g) session) := by
  unfold deliver
  dsimp only
  cases hpreview : command.preview with
  | true =>
    obtain ⟨out, hout⟩ := exists_preview screen g session
    rw [if_pos rfl, hout]
    exact .previewed h hpreview
  | false =>
    rw [if_neg Bool.false_ne_true]
    refine imports_write screen command settings session (some g) h hpreview
      fun files tree hwrite => ?_
    unfold reportWritten
    cases hseen : Project.seenFrom (command.root settings) files with
    | error path => exact .writtenOutside h hpreview hwrite hseen
    | ok near =>
      obtain ⟨out, hout⟩ := exists_reportAll_code (printed_importedTexts screen g near) 0
        { session with tree := tree }
      dsimp only
      rw [hout]
      exact .written h hpreview hwrite hseen

theorem imports_deliver {made : Option Generation}
    (h : Ready command settings session.tree samples made) :
    Imports command settings session (deliver screen command settings made session) := by
  cases made with
  | none => exact imports_deliver_none screen command settings session h
  | some g => exact imports_deliver_some screen command settings session h

/-- The import command as a function of the session. -/
theorem importSamples_eq : importSamples screen command settings session =
    match readSamples session.tree command.file with
    | .error (.refused fault) => refuse screen fault.message session
    | .error (.tooManyDigits count) => .error (.tooManyDigits count) session
    | .error (.file fault) => .error (.file fault) session
    | .ok samples =>
      match typeNameFault? command.typeName with
      | some fault =>
        (do reportAll (wrongNameTexts screen command.typeName fault); pure 1 : RunAction Nat) session
      | none =>
        match generated settings.inference command.typeName samples with
        | .error fault => .error (.scan fault) session
        | .ok made => deliver screen command settings made session := by
  have hget : ∀ steps : Session → RunAction Nat, (get >>= steps) session = steps session session :=
    fun _ => rfl
  unfold importSamples
  rw [hget]
  cases readSamples session.tree command.file with
  | error fault => cases fault <;> rfl
  | ok samples =>
    dsimp only
    cases typeNameFault? command.typeName with
    | some fault => rfl
    | none =>
      dsimp only
      cases generated settings.inference command.typeName samples <;> rfl

/-- **The import command comes to one of these.** -/
theorem imports_importSamples :
    Imports command settings session (importSamples screen command settings session) := by
  rw [importSamples_eq]
  cases hread : readSamples session.tree command.file with
  | error fault =>
    cases fault with
    | refused fault =>
      obtain ⟨out, hout⟩ := exists_refuse screen fault.message session
      dsimp only
      rw [hout]
      exact .fileRefused hread
    | tooManyDigits count => exact .tooManyDigits hread
    | file fault => exact .fileFailed hread
  | ok samples =>
    dsimp only
    cases hname : typeNameFault? command.typeName with
    | some fault =>
      obtain ⟨out, hout⟩ := exists_reportAll_code
        (printed_wrongNameTexts screen command.typeName fault) 1 session
      dsimp only
      rw [hout]
      exact .nameRefused hread hname
    | none =>
      dsimp only
      cases hmade : generated settings.inference command.typeName samples with
      | error fault => exact .notScanned hread hname hmade
      | ok made => exact imports_deliver screen command settings session ⟨hread, hname, hmade⟩

end Imports

/-- **What is ready is imported**, if it can be written and lies below the project directory. -/
theorem exists_importSamples {command : ImportCommand} {settings : Settings} {samples : RawJson}
    {g : Generation} {files near : List Path} {tree tree' : FileTree}
    (h : Ready command settings tree samples (some g)) (hpreview : command.preview = false)
    (hwrite : (projectOf command settings).write g command.force tree = .ok files tree')
    (hseen : Project.seenFrom (command.root settings) files = .ok near) :
    ∃ out, importSamples screen command settings { tree := tree } =
      .ok 0 { tree := tree', out := out } := by
  have himport : importSamples screen command settings { tree := tree } =
      write screen (projectOf command settings) g.artifacts command.force
        (reportWritten screen (command.root settings) g) { tree := tree } := by
    rw [importSamples_eq]
    dsimp only
    rw [h.read]
    dsimp only
    rw [h.named]
    dsimp only
    rw [h.made]
    dsimp only
    unfold deliver
    rw [hpreview, if_neg Bool.false_ne_true]
    rfl
  have hreport : write screen (projectOf command settings) g.artifacts command.force
      (reportWritten screen (command.root settings) g) { tree := tree } =
        (do reportAll (importedTexts screen g near); pure 0 : RunAction Nat) { tree := tree' } := by
    unfold Project.write at hwrite
    unfold write
    dsimp only
    rw [hwrite]
    show reportWritten screen (command.root settings) g files { tree := tree' } = _
    unfold reportWritten
    rw [hseen]
  obtain ⟨out, hout⟩ :=
    exists_reportAll_code (printed_importedTexts screen g near) 0 { tree := tree' }
  exact ⟨out, himport.trans (hreport.trans hout)⟩

/-! ## 3. Runs -/

/-- **What a run comes to**, from the words of the command line on. -/
theorem run_cases (words : List String) (env : Environment) (tree : FileTree) :
    (∃ scope out, Request.ofWords words = .help scope ∧
      run screen words env tree = .ok 0 { tree := tree, out := out }) ∨
    (∃ fault err, Request.ofWords words = .refused fault ∧
      run screen words env tree = .ok 2 { tree := tree, err := err }) ∨
    ∃ command, Request.ofWords words = .run command ∧
      ((∃ fault, env.settings = .error fault ∧
        run screen words env tree = .error (.environment fault) { tree := tree }) ∨
      ∃ settings, env.settings = .ok settings ∧
        run screen words env tree = importSamples screen command settings { tree := tree }) := by
  unfold run
  cases Request.ofWords words with
  | help scope => exact Or.inl ⟨scope, _, rfl, rfl⟩
  | refused fault => exact Or.inr (Or.inl ⟨fault, _, rfl, rfl⟩)
  | run command =>
    refine Or.inr (Or.inr ⟨command, rfl, ?_⟩)
    unfold perform
    cases env.settings with
    | error fault => exact Or.inl ⟨fault, rfl, rfl⟩
    | ok settings => exact Or.inr ⟨settings, rfl, rfl⟩

end Program

end SampleSchema
