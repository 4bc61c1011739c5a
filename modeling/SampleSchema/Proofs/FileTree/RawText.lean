import SampleSchema.Proofs.FileTree.Written

/-!
# What writing a text as it was read changes

A text as it was read is written into a file that is open and empty already. If it is a text of
characters, that makes no difference: the result is the one of writing its characters
(`FileTree.writeRawText_ofText`). If not, the empty file is what stays
(`FileTree.writeRawText_of_encodeRaw`).

`FileTree.Stops` says for any text why it is not written and what is left at its path, and
`FileTree.written_of_writeRawText_error` what else changed by then.
-/

namespace SampleSchema

/-! ## 1. Encoding -/

namespace Utf8

theorem encodeFrom_chars (position : Nat) (cs : List Char) :
    encodeFrom position (cs.map .char) = .ok (encode cs) := by
  induction cs generalizing position with
  | nil => rfl
  | cons c cs ih =>
    rw [List.map_cons, encodeFrom, ih]
    rfl

/-- **The characters of a text are encoded** as they always are. -/
theorem encodeRaw_ofText (text : String) :
    encodeRaw (CodePoint.ofText text) = .ok (encode text.toList) :=
  encodeFrom_chars 0 text.toList

end Utf8

namespace FileTree

/-! ## 2. A file that is open -/

/-- Whether something can be put somewhere does not depend on what it is. -/
theorem isSome_insert? (tree : FileTree) (name : String) (up : Location) (e e' : Entry) :
    (tree.insert? name up e).isSome = (tree.insert? name up e').isSome := by
  unfold insert?
  by_cases hplace : tree.find? up = some .directory ∧ tree.find? (name :: up) ≠ some .directory
  · rw [dif_pos hplace, dif_pos hplace]
    rfl
  · rw [dif_neg hplace, dif_neg hplace]

/-- A file that was put somewhere can be replaced, as if it had not been there. -/
theorem insert?_insert? {tree between : FileTree} {name : String} {up : Location}
    {bytes : List UInt8} (h : tree.insert? name up (.file bytes) = some between)
    (bytes' : List UInt8) :
    between.insert? name up (.file bytes') = tree.insert? name up (.file bytes') := by
  have hup : between.find? up = tree.find? up :=
    find?_insert?_of_ne h (Location.ne_cons_self name up)
  have hself : between.find? (name :: up) = some (.file bytes) := find?_insert?_self h
  unfold insert? at h
  split at h
  · rename_i hplace
    have hplace' : between.find? up = some .directory ∧
        between.find? (name :: up) ≠ some .directory := by
      refine ⟨hup.trans hplace.1, ?_⟩
      rw [hself]
      exact fun hdir => by cases hdir
    unfold insert?
    rw [dif_pos hplace', dif_pos hplace]
    cases h
    simp only [Entries.put_put]
  · cases h

/-- **Writing into a file that was emptied** comes to writing the file. -/
theorem writeFile_twice (p : Path) (bytes : List UInt8) (tree : FileTree) :
    (match writeFile p [] tree with
      | .ok _ between => writeFile p bytes between
      | .error fault tree' => .error fault tree') = writeFile p bytes tree := by
  cases hloc : tree.locate p with
  | error e => simp only [writeFile, hloc]
  | ok loc =>
    have hwrite : ∀ bytes, writeFile p bytes tree = place p loc (.file bytes) tree := by
      intro bytes
      simp only [writeFile, hloc]
    rw [hwrite, hwrite]
    cases loc with
    | nil => rfl
    | cons name up =>
      have hsame := isSome_insert? tree name up (.file []) (.file bytes)
      cases hempty : tree.insert? name up (.file []) with
      | none =>
        rw [hempty] at hsame
        have hnone : tree.insert? name up (.file bytes) = none :=
          Option.isNone_iff_eq_none.mp (by rw [← Option.not_isSome, ← hsame]; rfl)
        simp only [place, hempty, hnone]
      | some between =>
        have hkept : Written [(p, "")] [p] tree between := written_of_insert?_file hloc hempty
        have hloc' : between.locate p = .ok (name :: up) := locate_of_kept hkept.toKept hloc
        rw [hempty] at hsame
        obtain ⟨after, hafter⟩ := Option.isSome_iff_exists.mp hsame.symm
        simp only [place, hempty, writeFile, hloc', insert?_insert? hempty, hafter]

/-! ## 3. Texts as they were read -/

variable {p : Path} {text : RawText} {tree tree' : FileTree}

theorem writeRawText_eq (p : Path) (text : RawText) (tree : FileTree) :
    writeRawText p text tree =
      match writeText p "" tree with
      | .error fault tree' => .error (.file fault) tree'
      | .ok _ opened =>
        match Utf8.encodeRaw text with
        | .ok bytes => onRawText (writeFile p bytes) opened
        | .error fault => .error (.encoding fault) opened := by
  show EStateM.bind (onRawText (makeDirectories p.parent)) (fun _ =>
    EStateM.bind (onRawText (writeFile p [])) fun _ => _) tree = _
  rw [writeText_eq]
  unfold EStateM.bind onRawText
  cases makeDirectories p.parent tree with
  | error fault made => rfl
  | ok u made =>
    dsimp only
    have hempty : Utf8.encode "".toList = [] := rfl
    rw [hempty]
    cases writeFile p [] made with
    | error fault opened => rfl
    | ok u opened => cases Utf8.encodeRaw text <;> rfl

/-- **A text of characters** is written as its characters are. -/
theorem writeRawText_ofText (p : Path) (text : String) (tree : FileTree) :
    writeRawText p (CodePoint.ofText text) tree = onRawText (writeText p text) tree := by
  rw [writeRawText_eq, Utf8.encodeRaw_ofText]
  unfold onRawText
  rw [writeText_eq, writeText_eq]
  cases makeDirectories p.parent tree with
  | error fault made => rfl
  | ok u made =>
    have htwice := writeFile_twice p (Utf8.encode text.toList) made
    have hempty : Utf8.encode "".toList = [] := rfl
    dsimp only
    rw [← htwice, hempty]
    cases writeFile p [] made <;> rfl

/-- **Any other text** empties its file. -/
theorem writeRawText_of_encodeRaw {fault : EncodingFault} (h : Utf8.encodeRaw text = .error fault)
    (p : Path) (tree : FileTree) :
    writeRawText p text tree =
      match writeText p "" tree with
      | .error fault tree' => .error (.file fault) tree'
      | .ok _ opened => .error (.encoding fault) opened := by
  rw [writeRawText_eq, h]

end FileTree

end SampleSchema
