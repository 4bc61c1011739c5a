import SampleSchema.Proofs.FileTree.Written
import SampleSchema.Proofs.Json.Characters
import SampleSchema.Proofs.Json.Reading
import SampleSchema.SampleFile

/-!
# What is read from a sample file

A file gives samples exactly if it can be read as a text that denotes an object or a list of objects
which is not empty, and the samples are what the text denotes (`readSamples_eq_ok_iff`). Otherwise it
is refused, but for two faults that pass through (`sampleFileRead`): an integer with too many digits,
and a name too long to ask about.
-/

namespace SampleSchema

/-! ## 1. Samples -/

/-- **A value holds samples**: it is an object, or a list of objects that is not empty. -/
def JsonOf.HoldsSamples {τ : Type} (v : JsonOf τ) : Prop :=
  v.isObject = true ∨ ∃ items, v = .arr items ∧ items ≠ [] ∧ ∀ item ∈ items, item.isObject = true

theorem holdsSamples_of_sampleDocuments {τ : Type} {file : String} {v w : JsonOf τ}
    (h : v.sampleDocuments file = .ok w) : w = v ∧ v.HoldsSamples := by
  unfold JsonOf.sampleDocuments at h
  split at h
  · cases h
    exact ⟨rfl, Or.inl rfl⟩
  · cases h
  · rename_i item rest
    split at h
    · rename_i hall
      cases h
      exact ⟨rfl, Or.inr ⟨item :: rest, rfl, List.cons_ne_nil _ _, List.all_eq_true.mp hall⟩⟩
    · cases h
  · cases h

theorem sampleDocuments_of_holdsSamples {τ : Type} (file : String) {v : JsonOf τ}
    (h : v.HoldsSamples) : v.sampleDocuments file = .ok v := by
  rcases h with hobject | ⟨items, rfl, hne, hall⟩
  · cases v with
    | obj members => rfl
    | null | bool | int | double | str | arr => cases hobject
  · cases items with
    | nil => exact absurd rfl hne
    | cons item rest => exact if_pos (List.all_eq_true.mpr hall)

/-- Whether a value holds samples does not depend on its texts. -/
theorem holdsSamples_mapTexts {τ σ : Type} (f : τ → σ) {v : JsonOf τ} :
    (v.mapTexts f).HoldsSamples ↔ v.HoldsSamples := by
  constructor
  · rintro (hobject | ⟨items', hv, hne, hall⟩)
    · rw [JsonOf.isObject_mapTexts] at hobject
      exact Or.inl hobject
    · cases v with
      | arr items =>
        cases hv
        rw [JsonOf.mapItems_eq] at hne hall
        refine Or.inr ⟨items, rfl, fun hnil => hne (hnil ▸ rfl), fun item hitem => ?_⟩
        rw [← JsonOf.isObject_mapTexts f]
        exact hall _ (List.mem_map_of_mem hitem)
      | null | bool | int | double | str | obj => cases hv
  · rintro (hobject | ⟨items, rfl, hne, hall⟩)
    · exact Or.inl ((JsonOf.isObject_mapTexts _ _).trans hobject)
    · refine Or.inr ⟨_, rfl, ?_, ?_⟩
      · rw [JsonOf.mapItems_eq]
        exact fun hnil => hne (List.map_eq_nil_iff.mp hnil)
      · rw [JsonOf.mapItems_eq]
        refine List.forall_mem_map.mpr fun item hitem => ?_
        rw [JsonOf.isObject_mapTexts]
        exact hall item hitem

/-! ## 2. Files -/

section Files

variable (tree : FileTree) (p : Path)

theorem locate_of_entryAt {e : FileError} (h : tree.entryAt p = .error e) (he : e ≠ .missing) :
    tree.locate p = .error e := by
  unfold FileTree.entryAt at h
  split at h
  · rename_i fault hlocate
    cases h
    exact hlocate
  · split at h
    · cases h
    · cases h
      exact absurd rfl he

/-- **Is there a file?** Only a name that is too long keeps the question from being answered. -/
theorem isFile_cases :
    (∃ bytes, tree.entryAt p = .ok (.file bytes) ∧ tree.isFile p = .ok true) ∨
    ((∀ bytes, tree.entryAt p ≠ .ok (.file bytes)) ∧ tree.isFile p = .ok false) ∨
    (tree.locate p = .error .nameTooLong ∧ tree.isFile p = .error ⟨.nameTooLong, p⟩) := by
  unfold FileTree.isFile FileTree.ask
  cases hentry : tree.entryAt p with
  | ok e =>
    cases e with
    | file bytes => exact Or.inl ⟨bytes, rfl, rfl⟩
    | directory =>
      refine Or.inr (Or.inl ⟨fun bytes h => ?_, rfl⟩)
      cases h
  | error e =>
    by_cases hlong : e = .nameTooLong
    · subst hlong
      exact Or.inr (Or.inr ⟨locate_of_entryAt tree p hentry (by decide), rfl⟩)
    · refine Or.inr (Or.inl ⟨fun bytes h => ?_, ?_⟩)
      · cases h
      · cases e with
        | nameTooLong => exact absurd rfl hlong
        | missing | denied | alreadyThere | notADirectory | isADirectory | nullCharacter => rfl

/-- What is no file cannot be read. -/
theorem readText_of_not_file (h : ∀ bytes, tree.entryAt p ≠ .ok (.file bytes)) :
    ∃ fault, tree.readText p = .error (.file fault) := by
  unfold FileTree.readText FileTree.readFile
  cases hentry : tree.entryAt p with
  | error e => exact ⟨_, rfl⟩
  | ok e =>
    cases e with
    | directory => exact ⟨_, rfl⟩
    | file bytes => exact absurd hentry (h bytes)

/-- A file that cannot be read is one of a tree that denies it, or holds what is no text. -/
theorem readText_of_file {bytes : List UInt8} (h : tree.entryAt p = .ok (.file bytes)) :
    (∃ text, tree.readText p = .ok text) ∨ tree.readText p = .error (.file ⟨.denied, p⟩) ∨
      ∃ fault, tree.readText p = .error (.encoding fault) := by
  unfold FileTree.readText FileTree.readFile
  rw [h]
  dsimp only
  cases tree.readable with
  | false => exact Or.inr (Or.inl rfl)
  | true =>
    rw [if_pos rfl]
    dsimp only
    cases Utf8.decode bytes with
    | error fault => exact Or.inr (Or.inr ⟨fault, rfl⟩)
    | ok text => exact Or.inl ⟨_, rfl⟩

end Files

/-! ## 3. Sample files -/

/-- **What comes of a sample file.** -/
inductive SampleFileRead (tree : FileTree) (file : String) :
    Except SampleFileFault RawJson → Prop
  | samples {text : List Char} {v : RawJson} (htext : tree.readText (.ofText file) = .ok text)
      (hv : IsTextOf text v) (hsamples : v.HoldsSamples) : SampleFileRead tree file (.ok v)
  | refused {fault : SampleFault}
      (hnone : ∀ text v, tree.readText (.ofText file) = .ok text → IsTextOf text v →
        ¬ v.HoldsSamples) : SampleFileRead tree file (.error (.refused fault))
  | tooManyDigits {text : List Char} {n : Nat} (htext : tree.readText (.ofText file) = .ok text)
      (h : Reader.HoldsLongInteger text n) (hnone : ∀ v, ¬ IsTextOf text v) :
      SampleFileRead tree file (.error (.tooManyDigits n))
  | nameTooLong (h : tree.locate (.ofText file) = .error .nameTooLong) :
      SampleFileRead tree file (.error (.file ⟨.nameTooLong, .ofText file⟩))

theorem sampleFileRead_of_text {tree : FileTree} {file : String} {text : List Char}
    (h : tree.readText (.ofText file) = .ok text) :
    SampleFileRead tree file
      (match tree.readJson (.ofText file) with
        | .error fault => .error (.ofDocument file fault)
        | .ok v =>
          match v.sampleDocuments file with
          | .error fault => .error (.refused fault)
          | .ok v => .ok v) := by
  unfold FileTree.readJson
  rw [h]
  dsimp only
  cases hread : RawJson.read text with
  | error fault =>
    have hnone : ∀ v, ¬ IsTextOf text v := by
      intro v hv
      rw [RawJson.read_eq_ok_iff.mpr hv] at hread
      cases hread
    cases fault with
    | tooManyDigits n => exact .tooManyDigits h (RawJson.holdsLongInteger_of_read hread) hnone
    | malformed | halfPair =>
      refine .refused fun text' v htext hv => ?_
      rw [h] at htext
      cases htext
      exact absurd hv (hnone v)
  | ok v =>
    dsimp only
    have hv := RawJson.read_eq_ok_iff.mp hread
    cases hsamples : v.sampleDocuments file with
    | ok w =>
      obtain ⟨rfl, hholds⟩ := holdsSamples_of_sampleDocuments hsamples
      exact .samples h hv hholds
    | error fault =>
      refine .refused fun text' w htext hw hholds => ?_
      rw [h] at htext
      cases htext
      rw [hv.unique hw, sampleDocuments_of_holdsSamples file hholds] at hsamples
      cases hsamples

/-- **Every sample file comes to one of these.** -/
theorem sampleFileRead (tree : FileTree) (file : String) :
    SampleFileRead tree file (readSamples tree file) := by
  unfold readSamples
  dsimp only
  rcases isFile_cases tree (.ofText file) with ⟨bytes, hentry, hfile⟩ | ⟨hno, hfile⟩ | ⟨hlong, hfile⟩
  · rw [hfile]
    dsimp only
    rcases readText_of_file tree _ hentry with ⟨text, htext⟩ | hdenied | ⟨fault, hencoding⟩
    · exact sampleFileRead_of_text htext
    · unfold FileTree.readJson
      rw [hdenied]
      refine .refused fun text v htext => ?_
      rw [hdenied] at htext
      cases htext
    · unfold FileTree.readJson
      rw [hencoding]
      refine .refused fun text v htext => ?_
      rw [hencoding] at htext
      cases htext
  · rw [hfile]
    obtain ⟨fault, htext⟩ := readText_of_not_file tree _ hno
    refine .refused fun text v h => ?_
    rw [htext] at h
    cases h
  · rw [hfile]
    exact .nameTooLong hlong

/-- **A file gives samples exactly if its text denotes them.** -/
theorem readSamples_eq_ok_iff {tree : FileTree} {file : String} {v : RawJson} :
    readSamples tree file = .ok v ↔
      ∃ text, tree.readText (.ofText file) = .ok text ∧ IsTextOf text v ∧ v.HoldsSamples := by
  have hread := sampleFileRead tree file
  constructor
  · intro h
    rw [h] at hread
    cases hread with
    | samples htext hv hsamples => exact ⟨_, htext, hv, hsamples⟩
  · rintro ⟨text, htext, hv, hsamples⟩
    generalize readSamples tree file = result at hread ⊢
    cases hread with
    | samples htext' hv' =>
      rw [htext] at htext'
      cases htext'
      rw [hv.unique hv']
    | refused hnone => exact absurd hsamples (hnone text v htext hv)
    | tooManyDigits htext' _ hnone =>
      rw [htext] at htext'
      cases htext'
      exact absurd hv (hnone v)
    | nameTooLong hlong =>
      -- what a path with such a name leads to cannot be asked for, so nothing is read there either
      have hno : ∀ bytes, tree.entryAt (.ofText file) ≠ .ok (.file bytes) := by
        intro bytes hentry
        obtain ⟨loc, hlocate, _⟩ := FileTree.entryAt_eq_ok_iff.mp hentry
        rw [hlong] at hlocate
        cases hlocate
      obtain ⟨fault, hunread⟩ := readText_of_not_file tree _ hno
      rw [htext] at hunread
      cases hunread

end SampleSchema
