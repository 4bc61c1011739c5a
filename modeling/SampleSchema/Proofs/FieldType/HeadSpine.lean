import Mathlib.Logic.Function.Iterate
import SampleSchema.FieldType.Inference
import SampleSchema.Proofs.Naming

/-!
# What the type of a value depends on

From a value its first elements lead through some arrays to a LEAF, or to nothing if the last of
them is empty (`JsonOf.LeadsTo`). The type of the value is that many arrays around the type of the
leaf, and what the type of a leaf is, is said here once more without the tests that find it out
(`LeafHasType`): which texts begin with a date, which are object ids, which doubles are whole. Each
leaf has just one type (`leafHasType_iff`), in particular no text is an object id and begins with a
date as well.

So values with the same HEAD have the same type (`FieldType.ofJson_reads_head`), whatever comes
behind the first elements, in objects or behind a date.
-/

namespace SampleSchema

/-! ## 1. Texts and doubles -/

/-- **A date**: four, two and two decimal digits of any script, joined by hyphens. -/
def IsDate (cs : List Char) : Prop :=
  ∃ year month day, cs = year ++ '-' :: (month ++ '-' :: day) ∧
    year.length = 4 ∧ month.length = 2 ∧ day.length = 2 ∧
    ∀ c ∈ year ++ month ++ day, isDecimalDigit c = true

/-- A text that begins with a date. -/
def BeginsWithDate (cs : List Char) : Prop := ∃ date rest, cs = date ++ rest ∧ IsDate date

/-- The digits of an object id. -/
def objectIdDigits : List Char := "0123456789abcdefABCDEF".toList

/-- **An object id**: 24 hexadecimal digits. -/
def IsObjectId (cs : List Char) : Prop := cs.length = 24 ∧ ∀ c ∈ cs, c ∈ objectIdDigits

/-- **A whole double**: it is finite, and its value is that of a natural number or its negative. -/
def Double.IsWhole (x : Double) : Prop :=
  ∃ negative m n, x = .finite negative m ∧ m.units = n * Magnitude.unitsPerOne

theorem hasDatePrefix_iff {cs : List Char} : hasDatePrefix cs = true ↔ BeginsWithDate cs := by
  constructor
  · intro h
    unfold hasDatePrefix at h
    split at h
    · rename_i y₁ y₂ y₃ y₄ h₁ m₁ m₂ h₂ d₁ d₂ rest
      simp only [Bool.and_eq_true, beq_iff_eq, List.all_eq_true] at h
      obtain ⟨⟨hdigits, rfl⟩, rfl⟩ := h
      exact ⟨_, rest, rfl, [y₁, y₂, y₃, y₄], [m₁, m₂], [d₁, d₂], rfl, rfl, rfl, rfl, hdigits⟩
    · cases h
  · rintro ⟨_, rest, rfl, year, month, day, rfl, hyear, hmonth, hday, hdigits⟩
    match year, hyear, month, hmonth, day, hday with
    | [y₁, y₂, y₃, y₄], _, [m₁, m₂], _, [d₁, d₂], _ =>
      have hall : [y₁, y₂, y₃, y₄, m₁, m₂, d₁, d₂].all isDecimalDigit = true :=
        List.all_eq_true.mpr hdigits
      show (_ && _ && _) = true
      rw [hall]
      rfl

theorem hexDigit?_isSome_iff {c : Char} : (hexDigit? c).isSome = true ↔ c ∈ objectIdDigits := by
  have hall : objectIdDigits.all (fun d => (hexDigit? d).isSome) = true := by decide
  refine ⟨fun h => ?_, List.all_eq_true.mp hall c⟩
  have hascii : c.toNat < 128 := by
    unfold hexDigit? at h
    split at h
    · rename_i hc
      exact toNat_lt_of_le (d := '9') (by decide) hc.2
    · split at h
      · rename_i hc
        exact toNat_lt_of_le (d := 'f') (by decide) hc.2
      · split at h
        · rename_i hc
          exact toNat_lt_of_le (d := 'F') (by decide) hc.2
        · cases h
  exact of_forall_ascii (p := fun c => (hexDigit? c).isSome = true → c ∈ objectIdDigits)
    (by decide +kernel) hascii h

theorem isObjectId_iff {cs : List Char} : isObjectId cs = true ↔ IsObjectId cs := by
  unfold isObjectId IsObjectId
  rw [Bool.and_eq_true, beq_iff_eq, List.all_eq_true]
  exact and_congr_right fun _ => forall₂_congr fun c _ => hexDigit?_isSome_iff

/-- **No object id begins with a date**: it has no hyphen. -/
theorem not_beginsWithDate_of_isObjectId {cs : List Char} (h : IsObjectId cs) :
    ¬ BeginsWithDate cs := by
  rintro ⟨_, rest, rfl, year, month, day, rfl, _⟩
  have hhyphen : '-' ∈ year ++ '-' :: (month ++ '-' :: day) ++ rest := by simp
  exact absurd (h.2 '-' hhyphen) (by decide)

theorem Double.integer?_finite_isSome_iff {negative : Bool} {m : Magnitude} :
    (finite negative m).integer?.isSome = true ↔ m.units % Magnitude.unitsPerOne = 0 := by
  simp only [integer?]
  split
  · exact iff_of_true rfl ‹_›
  · exact iff_of_false nofun ‹_›

theorem Double.integer?_isSome_iff {x : Double} : x.integer?.isSome = true ↔ x.IsWhole := by
  constructor
  · intro h
    cases x with
    | nan => cases h
    | infinite negative => cases h
    | finite negative m =>
      have hdvd := Nat.dvd_of_mod_eq_zero (integer?_finite_isSome_iff.mp h)
      exact ⟨negative, m, m.units / Magnitude.unitsPerOne, rfl, (Nat.div_mul_cancel hdvd).symm⟩
  · rintro ⟨negative, m, n, rfl, hunits⟩
    refine integer?_finite_isSome_iff.mpr ?_
    rw [hunits]
    exact Nat.mul_mod_left n _

/-! ## 2. Leaves -/

/-- **Following first elements**: through how many arrays they lead, and to which leaf. There is
    none if the last of the arrays is empty. -/
inductive JsonOf.LeadsTo : Json → Nat → Option Json → Prop where
  | leaf {v : Json} (h : ∀ items, v ≠ .arr items) : LeadsTo v 0 (some v)
  | empty : LeadsTo (.arr []) 1 none
  | first {v : Json} {depth : Nat} {leaf : Option Json} (h : LeadsTo v depth leaf)
      (later : List Json) : LeadsTo (.arr (v :: later)) (depth + 1) leaf

/-- **The type of a leaf.** -/
inductive LeafHasType : Option Json → FieldType → Prop where
  | missing : LeafHasType none .unknown
  | null : LeafHasType (some .null) .unknown
  | object (members : List (String × Json)) : LeafHasType (some (.obj members)) .mixed
  | boolean (b : Bool) : LeafHasType (some (.bool b)) (.scalar .boolean)
  | int (z : Int) : LeafHasType (some (.int z)) (.scalar .int)
  | whole {x : Double} (h : x.IsWhole) : LeafHasType (some (.double x)) (.scalar .int)
  | float {x : Double} (h : ¬ x.IsWhole) : LeafHasType (some (.double x)) (.scalar .float)
  | date {s : String} (h : BeginsWithDate s.toList) : LeafHasType (some (.str s)) (.scalar .date)
  | objectId {s : String} (h : IsObjectId s.toList) :
      LeafHasType (some (.str s)) (.scalar .objectId)
  | string {s : String} (hdate : ¬ BeginsWithDate s.toList) (hid : ¬ IsObjectId s.toList) :
      LeafHasType (some (.str s)) (.scalar .string)

theorem JsonOf.exists_leadsTo (v : Json) : ∃ depth leaf, v.LeadsTo depth leaf := by
  fun_induction FieldType.ofJson v with
  | case1 => exact ⟨0, _, .leaf nofun⟩
  | case2 => exact ⟨0, _, .leaf nofun⟩
  | case3 => exact ⟨0, _, .leaf nofun⟩
  | case4 => exact ⟨0, _, .leaf nofun⟩
  | case5 => exact ⟨0, _, .leaf nofun⟩
  | case6 => exact ⟨1, _, .empty⟩
  | case7 v later ih =>
    obtain ⟨depth, leaf, h⟩ := ih
    exact ⟨depth + 1, leaf, .first h later⟩
  | case8 => exact ⟨0, _, .leaf nofun⟩

/-- **First elements lead to one leaf**, through one number of arrays. -/
theorem JsonOf.LeadsTo.unique {v : Json} {depth depth' : Nat} {leaf leaf' : Option Json}
    (h : v.LeadsTo depth leaf) (h' : v.LeadsTo depth' leaf') : depth' = depth ∧ leaf' = leaf := by
  induction h generalizing depth' with
  | leaf hv =>
    cases h' with
    | leaf _ => exact ⟨rfl, rfl⟩
    | empty => exact absurd rfl (hv _)
    | first _ _ => exact absurd rfl (hv _)
  | empty =>
    cases h' with
    | leaf hv => exact absurd rfl (hv _)
    | empty => exact ⟨rfl, rfl⟩
  | first _ later ih =>
    cases h' with
    | leaf hv => exact absurd rfl (hv _)
    | first h' _ =>
      obtain ⟨rfl, rfl⟩ := ih h'
      exact ⟨rfl, rfl⟩

/-- A leaf is no array. -/
theorem JsonOf.LeadsTo.leaf_ne {v u : Json} {depth : Nat} (h : v.LeadsTo depth (some u)) :
    ∀ items, u ≠ .arr items := by
  generalize hleaf : some u = leaf at h
  induction h with
  | leaf hv =>
    cases hleaf
    exact hv
  | empty => cases hleaf
  | first _ _ ih => exact ih hleaf

/-- **The type of a value is the type of its leaf**, in as many arrays. -/
theorem FieldType.ofJson_of_leadsTo {v : Json} {depth : Nat} {leaf : Option Json}
    (h : v.LeadsTo depth leaf) : ofJson v = array^[depth] (ofEvidence leaf) := by
  induction h with
  | leaf _ => rfl
  | empty => rfl
  | @first v depth leaf _ later ih =>
    rw [Function.iterate_succ_apply', ← ih]
    rfl

theorem leafHasType_double (x : Double) :
    LeafHasType (some (.double x)) (.scalar (.ofDouble x)) := by
  unfold ScalarKind.ofDouble
  split
  · exact .whole (Double.integer?_isSome_iff.mp ‹_›)
  · rename_i hfraction
    exact .float fun h => hfraction (Double.integer?_isSome_iff.mpr h)

theorem leafHasType_text (s : String) :
    LeafHasType (some (.str s)) (.scalar (.ofText s.toList)) := by
  unfold ScalarKind.ofText
  split
  · exact .date (hasDatePrefix_iff.mp ‹_›)
  · rename_i hdate
    split
    · exact .objectId (isObjectId_iff.mp ‹_›)
    · rename_i hid
      exact .string (fun h => hdate (hasDatePrefix_iff.mpr h))
        fun h => hid (isObjectId_iff.mpr h)

/-- What the tests find out is a type of the leaf. -/
theorem leafHasType_ofEvidence {leaf : Option Json} (h : ∀ items, leaf ≠ some (.arr items)) :
    LeafHasType leaf (.ofEvidence leaf) := by
  cases leaf with
  | none => exact .missing
  | some v =>
    cases v with
    | null => exact .null
    | bool b => exact .boolean b
    | int z => exact .int z
    | double x => exact leafHasType_double x
    | str s => exact leafHasType_text s
    | arr items => exact absurd rfl (h items)
    | obj members => exact .object members

/-- A type of a leaf is what the tests find out. -/
theorem LeafHasType.ofEvidence_eq {leaf : Option Json} {t : FieldType} (h : LeafHasType leaf t) :
    FieldType.ofEvidence leaf = t := by
  cases h with
  | missing => rfl
  | null => rfl
  | object members => rfl
  | boolean b => rfl
  | int z => rfl
  | whole h => exact congrArg FieldType.scalar (if_pos (Double.integer?_isSome_iff.mpr h))
  | float h =>
    exact congrArg FieldType.scalar (if_neg fun hwhole => h (Double.integer?_isSome_iff.mp hwhole))
  | date h => exact congrArg FieldType.scalar (if_pos (hasDatePrefix_iff.mpr h))
  | objectId h =>
    have hdate := mt hasDatePrefix_iff.mp (not_beginsWithDate_of_isObjectId h)
    exact congrArg FieldType.scalar ((if_neg hdate).trans (if_pos (isObjectId_iff.mpr h)))
  | string hdate hid =>
    have hdate := mt hasDatePrefix_iff.mp hdate
    exact congrArg FieldType.scalar ((if_neg hdate).trans (if_neg (mt isObjectId_iff.mp hid)))

/-- **A leaf has just the type that the tests find out.** -/
theorem leafHasType_iff {leaf : Option Json} (h : ∀ items, leaf ≠ some (.arr items))
    {t : FieldType} : LeafHasType leaf t ↔ t = .ofEvidence leaf := by
  refine ⟨fun ht => ht.ofEvidence_eq.symm, ?_⟩
  rintro rfl
  exact leafHasType_ofEvidence h

/-! ## 3. Heads -/

/-- **Two values have the same head**: their first elements lead through as many arrays to the same
    leaf, or to any two objects, or to two texts that begin with the same date. -/
inductive JsonOf.SameHead : Json → Json → Prop where
  | same (v : Json) : SameHead v v
  | objects (members members' : List (String × Json)) : SameHead (.obj members) (.obj members')
  | dated {date : List Char} (h : IsDate date) (rest rest' : List Char) :
      SameHead (.str (String.ofList (date ++ rest))) (.str (String.ofList (date ++ rest')))
  | first {v w : Json} (h : SameHead v w) (later later' : List Json) :
      SameHead (.arr (v :: later)) (.arr (w :: later'))

theorem FieldType.ofJson_of_date {date : List Char} (h : IsDate date) (rest : List Char) :
    ofJson (.str (String.ofList (date ++ rest))) = .scalar .date := by
  have hbegins : BeginsWithDate (String.ofList (date ++ rest)).toList := by
    rw [String.toList_ofList]
    exact ⟨date, rest, rfl, h⟩
  exact (LeafHasType.date hbegins).ofEvidence_eq

theorem JsonOf.SameHead.ofJson_eq {v w : Json} (h : v.SameHead w) :
    FieldType.ofJson w = .ofJson v := by
  induction h with
  | same v => rfl
  | objects members members' => rfl
  | dated h rest rest' => rw [FieldType.ofJson_of_date h, FieldType.ofJson_of_date h]
  | first _ later later' ih => exact congrArg FieldType.array ih

/-- **The type of a value is read off its head.** The first elements lead through some number of
    arrays to one leaf or to none, that leaf has one type, and the value has this type in as many
    arrays. So values with the same head have the same type. That a leaf has one type rests on texts
    being object ids or beginning with a date, and never both. -/
theorem FieldType.ofJson_reads_head (v : Json) :
    (∃ depth leaf kind,
      (∀ depth' leaf', v.LeadsTo depth' leaf' ↔ depth' = depth ∧ leaf' = leaf) ∧
      (∀ kind', LeafHasType leaf kind' ↔ kind' = kind) ∧ ofJson v = array^[depth] kind) ∧
    (∀ cs, ¬ (BeginsWithDate cs ∧ IsObjectId cs)) ∧
    ∀ w, v.SameHead w → ofJson w = ofJson v := by
  refine ⟨?_, fun cs h => not_beginsWithDate_of_isObjectId h.2 h.1, fun w h => h.ofJson_eq⟩
  obtain ⟨depth, leaf, hleads⟩ := v.exists_leadsTo
  have hleaf : ∀ items, leaf ≠ some (.arr items) := by
    rintro items rfl
    exact hleads.leaf_ne items rfl
  refine ⟨depth, leaf, .ofEvidence leaf, fun depth' leaf' => ⟨hleads.unique, ?_⟩,
    fun kind' => leafHasType_iff hleaf, ofJson_of_leadsTo hleads⟩
  rintro ⟨rfl, rfl⟩
  exact hleads

/-- A date in two arrays, and the same date with a time behind it and other values around it. -/
theorem FieldType.ofJson_reads_head_datedArrays :
    let v : Json := .arr [.arr [.str "2024-01-15"], .null]
    let w : Json := .arr [.arr [.str "2024-01-15T08:30", .int 7]]
    v.SameHead w ∧ ofJson v = .array (.array (.scalar .date)) ∧ ofJson w = ofJson v := by
  intro v w
  have hdate : IsDate "2024-01-15".toList :=
    ⟨['2', '0', '2', '4'], ['0', '1'], ['1', '5'], by decide, rfl, rfl, rfl,
      List.all_eq_true.mp (by decide)⟩
  have hhead : v.SameHead w := .first (.first (.dated hdate [] "T08:30".toList) [] [.int 7]) _ _
  obtain ⟨_, _, hsame⟩ := ofJson_reads_head v
  exact ⟨hhead, by decide, hsame w hhead⟩

end SampleSchema
