import SampleSchema.Proofs.Program.Effect
import SampleSchema.Proofs.SampleFile.Read
import SampleSchema.Proofs.Scan.FieldWise

/-!
# Previews of sample files

A preview of any sample file under an accepted name ends with the code 0 or the code 1, as the file
gives samples or is refused (`Program.sampleFile_previewed`), as long as the settings allow a number
of samples that can be counted. What else there is ends it without a code: the two faults in reading
that are no refusal, and a key with half of a surrogate pair among the samples that are looked at. So
a file can hold an integer that is too long to be read (`Program.longIntegerTree_previewed`).
-/

namespace SampleSchema

namespace Program

/-- Samples that a file holds have everything generated for them; it can be printed if their keys
    can. -/
theorem generated_of_holdsSamples {settings : InferenceSettings}
    (hlimit : settings.sampleLimit ≤ maxSampleLimit) (typeName : String) {v : RawJson}
    (hv : v.HoldsSamples) : ∃ g, generated settings typeName v =
      .ok (if keysAreTexts settings v then some g else none) := by
  have hexaminable : ∃ samples, v.replaced.examinable settings = .ok samples := by
    rcases (holdsSamples_mapTexts CodePoint.replaced).mpr hv with hobject | ⟨items, hitems, _⟩
    · exact ⟨_, examinable_eq_ok (Or.inr ⟨hobject, rfl⟩) hlimit⟩
    · exact ⟨_, examinable_eq_ok (Or.inl hitems) hlimit⟩
  obtain ⟨samples, hsamples⟩ := hexaminable
  unfold generated Generation.ofJson
  rw [hsamples]
  exact ⟨_, rfl⟩

/-- How a preview ends, by what came of its sample file. -/
def previewEnd (settings : InferenceSettings) (tree : FileTree) (out : String) :
    Except SampleFileFault RawJson → EStateM.Result Failure Session Nat
  | .ok samples =>
    if keysAreTexts settings samples then .ok 0 { tree := tree, out := out }
    else .error .encoding { tree := tree }
  | .error (.refused _) => .ok 1 { tree := tree, out := out }
  | .error (.tooManyDigits count) => .error (.tooManyDigits count) { tree := tree }
  | .error (.file fault) => .error (.file fault) { tree := tree }

theorem exists_previewEnd (screen : Screen) {command : ImportCommand} {settings : Settings}
    (tree : FileTree) (hpreview : command.preview = true) (hname : typeNameFault? command.typeName = none)
    (hlimit : settings.inference.sampleLimit ≤ maxSampleLimit) :
    ∃ out, importSamples screen command settings { tree := tree } =
      previewEnd settings.inference tree out (readSamples tree command.file) := by
  rw [importSamples_eq]
  dsimp only
  cases hread : readSamples tree command.file with
  | error fault =>
    cases fault with
    | refused fault => exact exists_refuse screen fault.message { tree := tree }
    | tooManyDigits count => exact ⟨"", rfl⟩
    | file fault => exact ⟨"", rfl⟩
  | ok samples =>
    obtain ⟨text, _, _, hsamples⟩ := readSamples_eq_ok_iff.mp hread
    obtain ⟨g, hg⟩ := generated_of_holdsSamples hlimit command.typeName hsamples
    dsimp only
    rw [hname]
    dsimp only
    rw [hg]
    dsimp only
    simp only [previewEnd, deliver, if_pos hpreview]
    by_cases hkeys : keysAreTexts settings.inference samples = true
    · simp only [if_pos hkeys]
      exact exists_preview screen g { tree := tree }
    · simp only [if_neg hkeys]
      exact ⟨"", rfl⟩

/-- **What a sample file comes to, read and previewed**, whatever its path and its bytes. It gives
    samples exactly if its text denotes an object or a list of objects that is not empty, and then
    these; otherwise it is refused, or holds an integer with too many digits, or its name is too
    long. A preview of it under an accepted name ends accordingly, and fails if a key of the samples
    cannot be printed. -/
theorem sampleFile_previewed (tree : FileTree) (file : String) :
    SampleFileRead tree file (readSamples tree file) ∧
    (∀ v, readSamples tree file = .ok v ↔
      ∃ text, tree.readText (.ofText file) = .ok text ∧ IsTextOf text v ∧ v.HoldsSamples) ∧
    ∀ screen words env command settings, Request.ofWords words = .run command →
      command.file = file → command.preview = true → typeNameFault? command.typeName = none →
      env.settings = .ok settings → settings.inference.sampleLimit ≤ maxSampleLimit →
      ∃ out, run screen words env tree =
        previewEnd settings.inference tree out (readSamples tree file) := by
  refine ⟨sampleFileRead tree file, fun v => readSamples_eq_ok_iff, ?_⟩
  rintro screen words env command settings hwords rfl hpreview hname hsettings hlimit
  unfold run
  rw [hwords]
  unfold perform
  rw [hsettings]
  exact exists_previewEnd screen tree hpreview hname hlimit

/-- The file of orders is previewed. -/
theorem sampleFile_previewed_ordersTree :
    ∃ session,
      run (.plain 80) ["import", "orders.json", "--preview"] [] ordersTree = .ok 0 session ∧
      session.tree = ordersTree := by
  have hwords : Request.ofWords ["import", "orders.json", "--preview"] =
      .run { ordersCommand with preview := true } := by decide +kernel
  have hname : typeNameFault? ({ ordersCommand with preview := true } : ImportCommand).typeName =
      none := by decide +kernel
  obtain ⟨out, hrun⟩ := (sampleFile_previewed ordersTree "orders.json").2.2 (.plain 80)
    ["import", "orders.json", "--preview"] [] _ _ hwords rfl rfl hname settings_nil (by decide)
  have hread : readSamples ordersTree "orders.json" = .ok orders := ready_ordersTree.read
  have hkeys : keysAreTexts .standard orders = true :=
    keysAreTexts_raw .standard (.arr [.obj [("total", .int 3)]])
  rw [hread, previewEnd, if_pos hkeys] at hrun
  exact ⟨_, hrun, rfl⟩

/-- A tree with a file whose one integer has one digit too many. -/
def longIntegerTree : FileTree :=
  (FileTree.empty.insert? "long.json" [] (.file (Utf8.encode "[\x7b\"n\": ".toList ++
    List.replicate (Numeral.maxDigits + 1) 0x31 ++ Utf8.encode "\x7d]".toList))).getD .empty

/-- **A sample file can be neither read nor refused**, and its preview ends without a code. -/
theorem longIntegerTree_previewed :
    readSamples longIntegerTree "long.json" = .error (.tooManyDigits 4301) ∧
    run (.plain 80) ["import", "long.json", "--name", "Order", "--preview"] [] longIntegerTree =
      .error (.tooManyDigits 4301) { tree := longIntegerTree } := by
  have hread : readSamples longIntegerTree "long.json" = .error (.tooManyDigits 4301) := by
    have h : (match readSamples longIntegerTree "long.json" with
      | .error fault => some fault
      | .ok _ => none) = some (.tooManyDigits 4301) := by decide +kernel
    split at h
    · rename_i fault hfault
      rw [hfault, Option.some.inj h]
    · cases h
  have hwords : Request.ofWords ["import", "long.json", "--name", "Order", "--preview"] =
      .run { file := "long.json", name := some "Order", preview := true } := by decide +kernel
  refine ⟨hread, ?_⟩
  unfold run
  rw [hwords]
  unfold perform
  rw [settings_nil]
  show importSamples _ _ {} { tree := longIntegerTree } = _
  rw [importSamples_eq]
  dsimp only
  rw [hread]

end Program

end SampleSchema
