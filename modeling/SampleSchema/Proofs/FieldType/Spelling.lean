import SampleSchema.Artifact.StorageSchema
import SampleSchema.Proofs.Text.Reading

/-!
# The two spellings of a type

Every spelling of a type is a word (`isWord_api`, `isWord_storage`, `isWord_storagePath`). Neither
spelling says everything of a type, as one knows no difference between integers and other numbers
and the other none between `unknown` and a string; but both together do (`eq_of_spellings`), and
this also where an entry of the storage schema names a type by its path (`eq_of_path`).
-/

namespace SampleSchema

/-! ## 1. Spellings are words -/

theorem ScalarKind.isWord_api (k : ScalarKind) : IsWord k.api.toList := by
  cases k <;> decide

theorem ScalarKind.isWord_storage (k : ScalarKind) : IsWord k.storage.toList := by
  cases k <;> decide

namespace FieldType

/-- The type of a field, as an entry of the storage schema names it. -/
def storagePath : FieldType → String
  | .mixed => "mongoose.Schema.Types.Mixed"
  | .unknown => "mongoose.Schema.Types.Mixed"
  | .scalar .objectId => "mongoose.Schema.Types.ObjectId"
  | t => t.storage

theorem isWord_brackets {s : String} (h : IsWord s.toList) :
    IsWord ("[" ++ s ++ "]").toList := by
  rw [String.toList_append, String.toList_append]
  exact isWord_append (isWord_append (by decide) h) (by decide)

theorem isWord_api (t : FieldType) : IsWord t.api.toList := by
  induction t with
  | scalar k => exact k.isWord_api
  | array e ih => exact isWord_brackets ih
  | mixed => decide
  | unknown => decide

theorem isWord_storage (t : FieldType) : IsWord t.storage.toList := by
  induction t with
  | scalar k => exact k.isWord_storage
  | array e ih => exact isWord_brackets ih
  | mixed => decide
  | unknown => decide

theorem isWord_storagePath (t : FieldType) : IsWord t.storagePath.toList := by
  unfold storagePath
  split
  · decide
  · decide
  · decide
  · exact isWord_storage t

/-! ## 2. Both spellings together -/

theorem brackets_inj {s t : String} (h : "[" ++ s ++ "]" = "[" ++ t ++ "]") : s = t :=
  (String.append_right_inj "[").mp ((String.append_left_inj "]").mp h)

/-- What is in brackets begins like no other spelling. -/
theorem brackets_ne {s t : String} (h : t.toList.head? ≠ some '[') : "[" ++ s ++ "]" ≠ t := by
  rintro rfl
  rw [String.toList_append, String.toList_append] at h
  exact h rfl

/-- **Both spellings of a type identify it.** -/
theorem eq_of_spellings {t u : FieldType} (hstorage : t.storage = u.storage)
    (hapi : t.api = u.api) : t = u := by
  induction t generalizing u with
  | array e ih =>
    cases u with
    | array e' => rw [ih (brackets_inj hstorage) (brackets_inj hapi)]
    | scalar k => exact absurd hapi (brackets_ne (by cases k <;> decide))
    | mixed => exact absurd hapi (brackets_ne (by decide))
    | unknown => exact absurd hapi (brackets_ne (by decide))
  | scalar k =>
    cases u with
    | array e' => exact absurd hapi.symm (brackets_ne (by cases k <;> decide))
    | scalar k' => revert hstorage hapi; cases k <;> cases k' <;> decide
    | mixed => revert hstorage hapi; cases k <;> decide
    | unknown => revert hstorage hapi; cases k <;> decide
  | mixed =>
    cases u with
    | array e' => exact absurd hapi.symm (brackets_ne (by decide))
    | scalar k' => revert hstorage hapi; cases k' <;> decide
    | mixed => rfl
    | unknown => revert hstorage hapi; decide
  | unknown =>
    cases u with
    | array e' => exact absurd hapi.symm (brackets_ne (by decide))
    | scalar k' => revert hstorage hapi; cases k' <;> decide
    | mixed => revert hstorage hapi; decide
    | unknown => rfl

/-- Types that entries name alike are spelled alike. -/
theorem storage_eq_of_path {t u : FieldType} (h : t.storagePath = u.storagePath) :
    t.storage = u.storage := by
  cases t with
  | array e =>
    cases u with
    | array e' => exact h
    | scalar k => exact absurd h (brackets_ne (by cases k <;> decide))
    | mixed => exact absurd h (brackets_ne (by decide))
    | unknown => exact absurd h (brackets_ne (by decide))
  | scalar k =>
    cases u with
    | array e' => exact absurd h.symm (brackets_ne (by cases k <;> decide))
    | scalar k' => revert h; cases k <;> cases k' <;> decide
    | mixed => revert h; cases k <;> decide
    | unknown => revert h; cases k <;> decide
  | mixed =>
    cases u with
    | array e' => exact absurd h.symm (brackets_ne (by decide))
    | scalar k' => revert h; cases k' <;> decide
    | mixed => rfl
    | unknown => rfl
  | unknown =>
    cases u with
    | array e' => exact absurd h.symm (brackets_ne (by decide))
    | scalar k' => revert h; cases k' <;> decide
    | mixed => rfl
    | unknown => rfl

/-- **The name in an entry and the spelling in the API identify a type.** -/
theorem eq_of_path {t u : FieldType} (hpath : t.storagePath = u.storagePath)
    (hapi : t.api = u.api) : t = u :=
  eq_of_spellings (storage_eq_of_path hpath) hapi

end FieldType

end SampleSchema
