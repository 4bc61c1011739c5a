import SampleSchema.FieldModel.Record
import SampleSchema.Proofs.Validation.Checked

/-!
# The JSON form of a type, and what else passes for one

A value SPELLS a type if its tags do, level by level: each one names a variant, and the members that
the variant needs are there (`SpellsType`). These are the values that pass the check, and the JSON
form of a type is one of them (`FieldType.check_eq_ok_iff`, `FieldType.spellsType_toJson`).

Any other value leads through some levels that are arrays to the FIRST BAD LEVEL, and the check
reports the one fault of that level at its place (`FieldType.check_eq_error_iff`).
-/

namespace SampleSchema

/-! ## 1. Values that spell a type -/

/-- **A value spells a type.** Members that the variant does not ask for may be there as well. -/
inductive SpellsType : Json → FieldType → Prop
  | scalar {ms : List (String × Json)} {k : ScalarKind}
      (htag : Entries.get? ms "tag" = some (.str "scalar"))
      (hkind : Entries.get? ms "kind" = some (.str k.name)) : SpellsType (.obj ms) (.scalar k)
  | array {ms : List (String × Json)} {v : Json} {t : FieldType}
      (htag : Entries.get? ms "tag" = some (.str "array"))
      (helement : Entries.get? ms "element" = some v) (h : SpellsType v t) :
      SpellsType (.obj ms) (.array t)
  | mixed {ms : List (String × Json)} (htag : Entries.get? ms "tag" = some (.str "opaque")) :
      SpellsType (.obj ms) .mixed
  | unknown {ms : List (String × Json)} (htag : Entries.get? ms "tag" = some (.str "unknown")) :
      SpellsType (.obj ms) .unknown

/-! ## 2. Levels and their faults -/

/-- **The value so many levels below another**: on the way there every level is an array. -/
inductive LevelBelow : Nat → Json → Json → Prop
  | here (v : Json) : LevelBelow 0 v v
  | element {n : Nat} {ms : List (String × Json)} {v w : Json}
      (htag : Entries.get? ms "tag" = some (.str "array"))
      (helement : Entries.get? ms "element" = some v) (h : LevelBelow n v w) :
      LevelBelow (n + 1) (.obj ms) w

/-- **What is wrong with one level**, at which place in it: it is no object, it has no tag or one
    that names no variant, or a member that its variant needs is not there or no kind. -/
inductive LevelFault : Json → Fault → Prop
  | notAVariant {v : Json} (h : v.isObject = false) : LevelFault v ⟨[], .notAVariant⟩
  | noTag {ms : List (String × Json)} (htag : Entries.get? ms "tag" = none) :
      LevelFault (.obj ms) ⟨[], .noTag⟩
  | unknownTag {ms : List (String × Json)} {v : Json} (htag : Entries.get? ms "tag" = some v)
      (h : ∀ tag ∈ FieldType.tags, v ≠ .str tag) : LevelFault (.obj ms) ⟨[], .unknownTag v.shown⟩
  | noKind {ms : List (String × Json)} (htag : Entries.get? ms "tag" = some (.str "scalar"))
      (hkind : Entries.get? ms "kind" = none) :
      LevelFault (.obj ms) ⟨[.name "scalar", .name "kind"], .missing⟩
  | unknownKind {ms : List (String × Json)} {v : Json}
      (htag : Entries.get? ms "tag" = some (.str "scalar"))
      (hkind : Entries.get? ms "kind" = some v) (h : ∀ k : ScalarKind, v ≠ .str k.name) :
      LevelFault (.obj ms) ⟨[.name "scalar", .name "kind"], .unknownKind⟩
  | noElement {ms : List (String × Json)} (htag : Entries.get? ms "tag" = some (.str "array"))
      (helement : Entries.get? ms "element" = none) :
      LevelFault (.obj ms) ⟨[.name "array", .name "element"], .missing⟩

/-- The way to so many levels below: each one is the element of an array. -/
def levelPath (n : Nat) : List LocationStep :=
  (List.replicate n [LocationStep.name "array", .name "element"]).flatten

/-- A fault, seen from so many levels above. -/
def Fault.below (n : Nat) (fault : Fault) : Fault :=
  { fault with location := levelPath n ++ fault.location }

/-! ## 3. The check, by the tag -/

/-- A member of an object is smaller than the object. -/
theorem sizeOf_lt_of_get? {ms : List (String × Json)} {key : String} {v : Json}
    (h : Entries.get? ms key = some v) : sizeOf v < sizeOf (JsonOf.obj ms) := by
  induction ms with
  | nil => cases h
  | cons e rest ih =>
    obtain ⟨k, u⟩ := e
    rw [Entries.get?] at h
    split at h
    · cases h
      simp
      omega
    · have hrest := ih h
      simp at hrest ⊢
      omega

namespace FieldType

section Tags

variable {ms : List (String × Json)}

theorem checkElement_eq (ms : List (String × Json)) :
    checkElement ms = Checked.required ms "element" check := by
  induction ms with
  | nil => rfl
  | cons e rest ih =>
    obtain ⟨key, v⟩ := e
    unfold Checked.required at ih ⊢
    by_cases hkey : key = "element"
    · rw [checkElement, if_pos hkey, Entries.get?, if_pos hkey]
    · rw [checkElement, if_neg hkey, Entries.get?, if_neg hkey, ih]

theorem check_scalar (htag : Entries.get? ms "tag" = some (.str "scalar")) :
    check (.obj ms) =
      ((Checked.required ms "kind" checkKind).inside (.name "scalar")).map .scalar := by
  rw [check, htag]
  rfl

theorem check_array (htag : Entries.get? ms "tag" = some (.str "array")) :
    check (.obj ms) =
      ((Checked.required ms "element" check).inside (.name "array")).map .array := by
  rw [check, htag, ← checkElement_eq]
  rfl

theorem check_unknownTag {v : Json} (htag : Entries.get? ms "tag" = some v)
    (h : ∀ tag ∈ tags, v ≠ .str tag) : check (.obj ms) = Checked.fault (.unknownTag v.shown) := by
  simp only [tags, List.mem_cons, List.not_mem_nil, or_false, forall_eq_or_imp, forall_eq] at h
  rw [check, htag]
  split
  all_goals simp_all

end Tags

theorem checkKind_name (k : ScalarKind) : checkKind (.str k.name) = .ok k := by
  simp only [checkKind, ScalarKind.ofName?_name]

theorem checkKind_of_ne {v : Json} (h : ∀ k : ScalarKind, v ≠ .str k.name) :
    checkKind v = Checked.fault .unknownKind := by
  cases v with
  | str name =>
    have hnone : ScalarKind.ofName? name = none := by
      refine List.find?_eq_none.mpr fun k _ hname => h k ?_
      rw [eq_of_beq hname]
    simp only [checkKind, hnone]
  | _ => rfl

/-! ## 4. What is checked, and what is reported -/

/-- A value that spells a type is checked for it. -/
theorem check_of_spellsType {v : Json} {t : FieldType} (h : SpellsType v t) : check v = .ok t := by
  induction h with
  | @scalar ms k htag hkind =>
    rw [check_scalar htag, Checked.required_of_some hkind, checkKind_name]
    rfl
  | array htag helement _ ih =>
    rw [check_array htag, Checked.required_of_some helement, ih]
    rfl
  | mixed htag =>
    rw [check, htag]
    rfl
  | unknown htag =>
    rw [check, htag]
    rfl

/-- A level with a fault is refused for it. -/
theorem check_of_levelFault {v : Json} {fault : Fault} (h : LevelFault v fault) :
    check v = .error [fault] := by
  cases h with
  | notAVariant h => cases v <;> first | rfl | cases h
  | noTag htag =>
    rw [check, htag]
    rfl
  | unknownTag htag h => exact check_unknownTag htag h
  | noKind htag hkind =>
    rw [check_scalar htag, Checked.required_of_none hkind]
    rfl
  | unknownKind htag hkind h =>
    rw [check_scalar htag, Checked.required_of_some hkind, checkKind_of_ne h]
    rfl
  | noElement htag helement =>
    rw [check_array htag, Checked.required_of_none helement]
    rfl

/-- A fault is reported from every level above its own. -/
theorem check_of_levelBelow {n : Nat} {v w : Json} {fault : Fault} (h : LevelBelow n v w)
    (hw : check w = .error [fault]) : check v = .error [fault.below n] := by
  induction h with
  | here v => exact hw
  | element htag helement _ ih =>
    rw [check_array htag, Checked.required_of_some helement, ih hw]
    rfl

/-- **Every value spells a type or leads to a bad level.** -/
theorem spellsType_or_levelFault (v : Json) : (∃ t, SpellsType v t) ∨
    ∃ n w fault, LevelBelow n v w ∧ LevelFault w fault := by
  by_cases hobject : v.isObject = false
  · exact Or.inr ⟨0, v, _, .here v, .notAVariant hobject⟩
  · obtain ⟨ms, rfl⟩ : ∃ ms, v = .obj ms := by
      cases v with
      | obj ms => exact ⟨ms, rfl⟩
      | _ => exact absurd rfl hobject
    cases htag : Entries.get? ms "tag" with
    | none => exact Or.inr ⟨0, _, _, .here _, .noTag htag⟩
    | some tag =>
      by_cases hknown : ∃ name ∈ tags, tag = .str name
      · obtain ⟨name, hname, rfl⟩ := hknown
        simp only [tags, List.mem_cons, List.not_mem_nil, or_false] at hname
        rcases hname with rfl | rfl | rfl | rfl
        · cases hkind : Entries.get? ms "kind" with
          | none => exact Or.inr ⟨0, _, _, .here _, .noKind htag hkind⟩
          | some kind =>
            by_cases hk : ∃ k : ScalarKind, kind = .str k.name
            · obtain ⟨k, rfl⟩ := hk
              exact Or.inl ⟨_, .scalar htag hkind⟩
            · exact Or.inr ⟨0, _, _, .here _, .unknownKind htag hkind (not_exists.mp hk)⟩
        · cases helement : Entries.get? ms "element" with
          | none => exact Or.inr ⟨0, _, _, .here _, .noElement htag helement⟩
          | some element =>
            have hsmaller : sizeOf element < sizeOf (JsonOf.obj ms) := sizeOf_lt_of_get? helement
            rcases spellsType_or_levelFault element with ⟨t, h⟩ | ⟨n, w, fault, h, hw⟩
            · exact Or.inl ⟨_, .array htag helement h⟩
            · exact Or.inr ⟨n + 1, w, fault, .element htag helement h, hw⟩
        · exact Or.inl ⟨_, .mixed htag⟩
        · exact Or.inl ⟨_, .unknown htag⟩
      · refine Or.inr ⟨0, _, _, .here _, .unknownTag htag fun name hname h => hknown ?_⟩
        exact ⟨name, hname, h⟩
termination_by sizeOf v

/-- **A value passes the check for a type exactly if it spells the type.** -/
theorem check_eq_ok_iff {v : Json} {t : FieldType} : check v = .ok t ↔ SpellsType v t := by
  refine ⟨fun h => ?_, check_of_spellsType⟩
  rcases spellsType_or_levelFault v with ⟨u, hu⟩ | ⟨n, w, fault, hbelow, hfault⟩
  · rw [check_of_spellsType hu] at h
    cases h
    exact hu
  · rw [check_of_levelBelow hbelow (check_of_levelFault hfault)] at h
    cases h

/-- **Any other value is refused for the one fault of its first bad level.** -/
theorem check_eq_error_iff {v : Json} {faults : List Fault} : check v = .error faults ↔
    ∃ n w fault, LevelBelow n v w ∧ LevelFault w fault ∧ faults = [fault.below n] := by
  constructor
  · intro h
    rcases spellsType_or_levelFault v with ⟨t, ht⟩ | ⟨n, w, fault, hbelow, hfault⟩
    · rw [check_of_spellsType ht] at h
      cases h
    · rw [check_of_levelBelow hbelow (check_of_levelFault hfault)] at h
      cases h
      exact ⟨n, w, fault, hbelow, hfault, rfl⟩
  · rintro ⟨n, w, fault, hbelow, hfault, rfl⟩
    exact check_of_levelBelow hbelow (check_of_levelFault hfault)

/-- **The JSON form of a type spells it.** -/
theorem spellsType_toJson (t : FieldType) : SpellsType t.toJson t := by
  induction t with
  | scalar k => exact .scalar rfl rfl
  | array e ih => exact .array rfl rfl ih
  | mixed => exact .mixed rfl
  | unknown => exact .unknown rfl

end FieldType

end SampleSchema
