import SampleSchema.FileTree.Document
import SampleSchema.Proofs.FileTree.Making
import SampleSchema.Proofs.Json.Written
import SampleSchema.Proofs.Path
import SampleSchema.Proofs.Text.Utf8
import SampleSchema.Proofs.Validation.Checked

/-!
# Settings that are saved and loaded

Loading undoes saving (`Settings.load_of_save`): at every path that can be written, the file that
holds the settings gives just these settings back, with every path, every text and every double as
it was. The JSON form passes its own check (`Settings.check_toJson`), what is written of it is read
(`Json.read_fileText`), and a text is decoded from its bytes.

One thing that is written is not read: a number of the scan from ten to the 4300 on. Saving such
settings writes a file that cannot be loaded (`Settings.long_limit_not_loaded`).
-/

namespace SampleSchema

/-! ## 1. Texts in files -/

/-- A text without carriage returns is read from its file as it was written. -/
theorem FileTree.readText_of_holds {tree : FileTree} {p : Path} {text : String}
    (hreadable : tree.readable = true) (hunfolded : '\r' ∉ text.toList)
    (h : tree.entryAt p = .ok (.file (Utf8.encode text.toList))) :
    tree.readText p = .ok text.toList := by
  have hfile : tree.readFile p = .ok (Utf8.encode text.toList) := by
    simp only [readFile, h, hreadable, if_pos]
  unfold readText
  rw [hfile]
  dsimp only
  rw [Utf8.decode_encode]
  dsimp only
  rw [foldLineEnds_eq_self hunfolded]

/-! ## 2. The JSON form is accepted -/

/-- A share is finite. -/
theorem Double.exists_finite_of_isShare {x : Double} (h : x.isShare = true) :
    ∃ negative m, x = .finite negative m := by
  cases x with
  | nan => cases h
  | infinite negative =>
    cases negative with
    | true => exact absurd h (by decide +kernel)
    | false => exact absurd h (by decide +kernel)
  | finite negative m => exact ⟨negative, m, rfl⟩

namespace Checked

theorem share_double (source : Source) {x : Double} (h : x.isShare = true) :
    share source (.double x) = .ok ⟨x, h⟩ := by
  simp [share, number, h]

theorem path_text (p : Path) : path (.str p.text) = .ok p := congrArg Except.ok (Path.ofText_text p)

end Checked

theorem InferenceSettings.check_toJson (source : Source) (s : InferenceSettings) :
    check source s.toJson = .ok s := by
  have hlimit := Checked.natural_int s.one_le_sampleLimit
  have hshare := Checked.share_double source s.isShare_requiredThreshold
  have hvalues := Checked.natural_int (Nat.zero_le s.sampleValueLimit)
  have hkeys : Checked.list source Checked.string (.arr (s.reservedKeys.map .str)) =
      .ok s.reservedKeys := Checked.all_items_map .str (fun _ => rfl) 0 s.reservedKeys
  unfold check toJson Checked.record
  dsimp only
  rw [Checked.optional_eq_ok rfl _ hlimit, Checked.optional_eq_ok rfl _ hshare,
    Checked.optional_eq_ok rfl _ hvalues, Checked.optional_eq_ok rfl _ hkeys]
  rfl

theorem OutputSettings.check_toJson (source : Source) (s : OutputSettings) :
    check source s.toJson = .ok s := by
  unfold check toJson Checked.record
  dsimp only
  rw [Checked.optional_eq_ok rfl _ (Checked.path_text s.models),
    Checked.optional_eq_ok rfl _ (Checked.path_text s.typedefs),
    Checked.optional_eq_ok rfl _ (Checked.path_text s.resolvers)]
  rfl

namespace Settings

/-- **Settings pass the check of their JSON form**, and it gives them back. -/
theorem check_toJson (source : Source) (s : Settings) : check source s.toJson = .ok s := by
  unfold check toJson Checked.record
  dsimp only
  rw [Checked.optional_eq_ok rfl _ (Checked.path_text s.projectRoot),
    Checked.optional_eq_ok rfl _ (InferenceSettings.check_toJson source s.inference),
    Checked.optional_eq_ok rfl _ (OutputSettings.check_toJson source s.output)]
  rfl

/-! ## 3. The JSON form is written -/

theorem isWritable_inference (s : InferenceSettings) : s.toJson.IsWritable := by
  obtain ⟨negative, m, hshare⟩ := Double.exists_finite_of_isShare s.isShare_requiredThreshold
  refine .obj (by simp [Entries.keys]) fun e he => ?_
  simp only [List.mem_cons, List.not_mem_nil, or_false] at he
  rcases he with rfl | rfl | rfl | rfl
  · exact .int _
  · dsimp only
    rw [hshare]
    exact .double negative m
  · exact .int _
  · refine .arr fun v hv => ?_
    obtain ⟨text, _, rfl⟩ := List.mem_map.mp hv
    exact .str text

theorem isWritable_output (s : OutputSettings) : s.toJson.IsWritable := by
  refine .obj (by simp [Entries.keys]) fun e he => ?_
  simp only [List.mem_cons, List.not_mem_nil, or_false] at he
  rcases he with rfl | rfl | rfl
  all_goals exact .str _

/-- **The JSON form can be written.** -/
theorem isWritable_toJson (s : Settings) : s.toJson.IsWritable := by
  refine .obj (by simp [Entries.keys]) fun e he => ?_
  simp only [List.mem_cons, List.not_mem_nil, or_false] at he
  rcases he with rfl | rfl | rfl
  · exact .str _
  · exact isWritable_inference s.inference
  · exact isWritable_output s.output

/-- **The two numbers of the scan have no more digits than a text may hold.** -/
def HasReadableLimits (s : Settings) : Prop :=
  digitCount s.inference.sampleLimit ≤ Numeral.maxDigits ∧
    digitCount s.inference.sampleValueLimit ≤ Numeral.maxDigits

instance (s : Settings) : Decidable s.HasReadableLimits := by
  unfold HasReadableLimits
  infer_instance

/-- **A number is too long from ten to the greatest number of digits on.** -/
theorem hasReadableLimits_iff {s : Settings} : s.HasReadableLimits ↔
    s.inference.sampleLimit < 10 ^ Numeral.maxDigits ∧
      s.inference.sampleValueLimit < 10 ^ Numeral.maxDigits := by
  unfold HasReadableLimits
  rw [digitCount_le_iff (by decide), digitCount_le_iff (by decide)]

theorem overlongItem?_texts (texts : List String) :
    JsonOf.overlongItem? (texts.map .str) = none := by
  induction texts with
  | nil => rfl
  | cons text rest ih =>
    rw [List.map_cons]
    exact ih

/-- Nothing but the two numbers of the scan can have too many digits. -/
theorem overlong?_toJson (s : Settings) : s.toJson.overlong? =
    (JsonOf.overlong? (.int s.inference.sampleLimit)).or
      (JsonOf.overlong? (.int s.inference.sampleValueLimit)) := by
  simp [toJson, InferenceSettings.toJson, OutputSettings.toJson, JsonOf.overlong?,
    JsonOf.overlongMember?, overlongItem?_texts]

theorem overlong?_int_eq_none_iff {z : Int} :
    JsonOf.overlong? (.int z) = none ↔ digitCount z ≤ Numeral.maxDigits := by
  simp [JsonOf.overlong?]

theorem overlong?_toJson_eq_none_iff {s : Settings} :
    s.toJson.overlong? = none ↔ s.HasReadableLimits := by
  rw [overlong?_toJson, Option.or_eq_none_iff, overlong?_int_eq_none_iff,
    overlong?_int_eq_none_iff]
  rfl

/-! ## 4. Saving and loading -/

/-- **The text of a file holds the settings**, unless a number of the scan is too long. -/
theorem ofFileText_fileText (s : Settings) : ofFileText s.fileText.toList =
    if s.HasReadableLimits then .ok s else Checked.fault .malformed := by
  have hread := Json.read_fileText s.isWritable_toJson
  unfold ofFileText fileText
  cases hoverlong : s.toJson.overlong? with
  | none =>
    rw [hoverlong] at hread
    rw [hread, if_pos (overlong?_toJson_eq_none_iff.mp hoverlong)]
    exact check_toJson .text s
  | some n =>
    have hlong : ¬ s.HasReadableLimits := fun h => by
      rw [overlong?_toJson_eq_none_iff.mpr h] at hoverlong
      cases hoverlong
    rw [hoverlong] at hread
    rw [hread, if_neg hlong]

/-- **What is loaded from a file that settings were saved in.** -/
theorem load_of_written (s : Settings) {tree tree' : FileTree} {p : Path}
    (hwritten : FileTree.Written [(p, s.fileText)] [p] tree tree') (hreadable : tree.readable = true) :
    load tree' p = if s.HasReadableLimits then .ok s else .error (.invalid [⟨[], .malformed⟩]) := by
  have hholds := hwritten.holds (p, s.fileText) (List.mem_singleton_self _)
  have hunfolded : '\r' ∉ s.fileText.toList := Json.not_mem_fileText s.isWritable_toJson
  have htext : tree'.readText p = .ok s.fileText.toList :=
    FileTree.readText_of_holds (hwritten.readable.trans hreadable) hunfolded hholds
  unfold load
  rw [htext]
  dsimp only
  rw [ofFileText_fileText]
  by_cases hlimits : s.HasReadableLimits
  · rw [if_pos hlimits, if_pos hlimits]
  · rw [if_neg hlimits, if_neg hlimits]
    rfl

/-- **Settings that are saved are loaded.** At every path that can be written, saving makes the
    missing directories and writes the file, and loading gives back just the settings that were
    saved. Only a number of the scan with too many digits, which is written like any other, makes
    the file unreadable. -/
theorem load_of_save (s : Settings) {tree : FileTree} {p : Path} (hwritable : tree.Writable p)
    (hreadable : tree.readable = true) :
    ∃ tree', s.save p tree = .ok () tree' ∧
      FileTree.Written [(p, s.fileText)] [p] tree tree' ∧
      load tree' p =
        if s.HasReadableLimits then .ok s else .error (.invalid [⟨[], .malformed⟩]) := by
  obtain ⟨tree', hsave⟩ := FileTree.exists_writeText_iff.mpr hwritable
  have hwritten := FileTree.written_of_writeText hsave
  exact ⟨tree', hsave, hwritten, s.load_of_written hwritten hreadable⟩

/-- A path below a directory that is not there can be written in the empty tree. -/
theorem writable_empty : FileTree.empty.Writable (.ofText "settings/scan.json") := by
  have hwrite : ∃ tree', FileTree.writeText (.ofText "settings/scan.json") "" FileTree.empty =
      .ok () tree' := ⟨_, rfl⟩
  exact FileTree.exists_writeText_iff.mp hwrite

/-- Settings of which no part is the default. -/
def shopSettings : Settings where
  projectRoot := .ofText "/srv/shop/../shop api"
  inference :=
    { sampleLimit := 250
      requiredThreshold := .ofQuotient false 1 3
      sampleValueLimit := 0
      reservedKeys := ["_id", "tenant", "größe \"x\""]
      one_le_sampleLimit := by decide
      isShare_requiredThreshold := by decide +kernel }
  output := ⟨.ofText "models", .ofText "api/types", .ofText "/srv/resolvers"⟩

/-- They are saved below a directory that was not there, and loaded. -/
theorem shopSettings_loaded : FileTree.empty.Writable (.ofText "settings/scan.json") ∧
    FileTree.empty.readable = true ∧
    ∃ tree', shopSettings.save (.ofText "settings/scan.json") FileTree.empty = .ok () tree' ∧
      load tree' (.ofText "settings/scan.json") = .ok shopSettings := by
  have hlimits : shopSettings.HasReadableLimits := by decide +kernel
  obtain ⟨tree', hsave, _, hload⟩ := load_of_save shopSettings writable_empty rfl
  rw [if_pos hlimits] at hload
  exact ⟨writable_empty, rfl, tree', hsave, hload⟩

/-- Settings with a limit of so many samples, and no others. -/
def withLimit (limit : Nat) (h : 1 ≤ limit) : Settings where
  inference :=
    { sampleLimit := limit
      one_le_sampleLimit := h
      isShare_requiredThreshold := InferenceSettings.standard.isShare_requiredThreshold }

/-- **A limit of ten to the 4300 samples is saved, and not loaded.** -/
theorem long_limit_not_loaded : ∃ tree',
    save (withLimit (10 ^ Numeral.maxDigits) (Nat.pow_pos (by decide)))
      (.ofText "settings/scan.json") FileTree.empty = .ok () tree' ∧
    load tree' (.ofText "settings/scan.json") = .error (.invalid [⟨[], .malformed⟩]) := by
  obtain ⟨s, hs⟩ : ∃ s, s = withLimit (10 ^ Numeral.maxDigits) (Nat.pow_pos (by decide)) := ⟨_, rfl⟩
  have hlong : ¬ s.HasReadableLimits := by
    rw [hasReadableLimits_iff, hs]
    exact fun h => absurd h.1 (Nat.lt_irrefl _)
  obtain ⟨tree', hsave⟩ := FileTree.exists_writeText_iff.mpr writable_empty
  have hload := s.load_of_written (FileTree.written_of_writeText hsave) rfl
  rw [if_neg hlong] at hload
  rw [← hs]
  exact ⟨tree', hsave, hload⟩

end Settings

end SampleSchema
