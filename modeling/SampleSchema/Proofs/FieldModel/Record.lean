import SampleSchema.Proofs.FieldType.Record
import SampleSchema.Proofs.Json.Written

/-!
# Fields and models that are written and read

The JSON form of a type, of a field and of a model is checked for the very same type, field or model
(`Field.check_toJson`, `FieldModel.check_toJson`). It is also what is read from its text, so a field
or a model that is written comes back as it was, with its fields and their values in their order
(`FieldModel.record_read_back`). The exception is the one of all texts: a record that holds an
integer with too many digits is written, and not read (`Field.long_sample_not_read`).
-/

namespace SampleSchema

/-! ## 1. The JSON form is accepted -/

/-- **A field passes the check of its JSON form**, and it gives the field back. -/
theorem Field.check_toJson (f : Field) : check f.toJson = .ok f := by
  have hname : Checked.string (.str f.name) = .ok f.name := rfl
  have htype : FieldType.check f.type.toJson = .ok f.type :=
    FieldType.check_of_spellsType f.type.spellsType_toJson
  have hrequired : Checked.boolean (.bool f.required) = .ok f.required := rfl
  have hsamples : Checked.list .value Except.ok (.arr f.samples) = .ok f.samples := by
    have hall := Checked.all_items_map (fun v => v) (fun _ => rfl) 0 f.samples
    rwa [List.map_id'] at hall
  unfold check toJson Checked.record
  dsimp only
  rw [Checked.required_of_some rfl, Checked.required_of_some rfl, hname, htype,
    Checked.optional_eq_ok rfl _ hrequired, Checked.optional_eq_ok rfl _ hsamples]
  rfl

/-- **A model passes the check of its JSON form**, and it gives the model back. -/
theorem FieldModel.check_toJson (model : FieldModel) : check model.toJson = .ok model := by
  have hentry : ∀ e : String × Field,
      ((Field.check e.2.toJson).inside (.name e.1)).map (fun f => (e.1, f)) = .ok e := by
    intro e
    rw [Field.check_toJson]
    rfl
  have hfields : checkFields (.obj (model.fields.map fun e => (e.1, e.2.toJson))) =
      .ok model.fields := by
    unfold checkFields checkEntries
    dsimp only
    rw [List.map_map]
    exact Checked.all_map_self hentry model.fields
  have hexamined := Checked.natural_int (Nat.zero_le model.examined)
  unfold check toJson Checked.record
  dsimp only
  rw [Checked.optional_eq_ok rfl _ hfields, Checked.optional_eq_ok rfl _ hexamined]
  rfl

/-! ## 2. The JSON form is written -/

theorem FieldType.isWritable_toJson (t : FieldType) : t.toJson.IsWritable := by
  induction t with
  | scalar k =>
    refine .obj (by simp [Entries.keys]) fun e he => ?_
    simp only [List.mem_cons, List.not_mem_nil, or_false] at he
    rcases he with rfl | rfl
    all_goals exact .str _
  | array e ih =>
    refine .obj (by simp [Entries.keys]) fun e he => ?_
    simp only [List.mem_cons, List.not_mem_nil, or_false] at he
    rcases he with rfl | rfl
    · exact .str _
    · exact ih
  | mixed => exact .obj (by decide) (List.forall_mem_singleton.mpr (.str _))
  | unknown => exact .obj (by decide) (List.forall_mem_singleton.mpr (.str _))

/-- No integer stands in the JSON form of a type. -/
theorem FieldType.overlong?_toJson (t : FieldType) : t.toJson.overlong? = none := by
  induction t with
  | array e ih => simp [toJson, JsonOf.overlong?, JsonOf.overlongMember?, ih]
  | _ => rfl

namespace Field

variable {f : Field}

/-- **A field can be written if its values can.** -/
theorem isWritable_toJson (h : ∀ v ∈ f.samples, v.IsWritable) : f.toJson.IsWritable := by
  refine .obj (by simp [Entries.keys]) fun e he => ?_
  simp only [List.mem_cons, List.not_mem_nil, or_false] at he
  rcases he with rfl | rfl | rfl | rfl
  · exact .str f.name
  · exact f.type.isWritable_toJson
  · exact .bool f.required
  · exact .arr h

/-- The integers of a field are those of its values. -/
theorem overlong?_toJson (f : Field) : f.toJson.overlong? = JsonOf.overlongItem? f.samples := by
  simp [toJson, JsonOf.overlong?, JsonOf.overlongMember?, FieldType.overlong?_toJson]

end Field

namespace FieldModel

variable {model : FieldModel}

/-- **A model can be written if the values of its fields can.** -/
theorem isWritable_toJson (hkeys : model.keys.Nodup)
    (h : ∀ e ∈ model.fields, ∀ v ∈ e.2.samples, v.IsWritable) : model.toJson.IsWritable := by
  have hfields : (JsonOf.obj (model.fields.map fun e => (e.1, e.2.toJson))).IsWritable := by
    refine .obj ?_ fun e he => ?_
    · unfold Entries.keys
      rw [List.map_map]
      exact hkeys
    · obtain ⟨entry, hentry, rfl⟩ := List.mem_map.mp he
      exact Field.isWritable_toJson (h entry hentry)
  refine .obj (by simp [Entries.keys]) fun e he => ?_
  simp only [List.mem_cons, List.not_mem_nil, or_false] at he
  rcases he with rfl | rfl
  · exact hfields
  · exact .int model.examined

/-- The values in the record of a model, and the number of documents behind them. -/
def content (model : FieldModel) : List Json :=
  model.fields.flatMap (·.2.samples) ++ [.int model.examined]

/-- The integers of a model are those of its values, and the number of documents. -/
theorem overlong?_toJson (model : FieldModel) :
    model.toJson.overlong? = JsonOf.overlongItem? model.content := by
  have hfields : ∀ fields : List (String × Field),
      JsonOf.overlongMember? (fields.map fun e => (e.1, e.2.toJson)) =
        JsonOf.overlongItem? (fields.flatMap (·.2.samples)) := by
    intro fields
    induction fields with
    | nil => rfl
    | cons e rest ih =>
      rw [List.map_cons, List.flatMap_cons, JsonOf.overlongItem?_append, ← Field.overlong?_toJson,
        ← ih]
      rfl
  unfold content
  rw [JsonOf.overlongItem?_append, ← hfields]
  simp [toJson, JsonOf.overlong?, JsonOf.overlongMember?, JsonOf.overlongItem?]

end FieldModel

/-! ## 3. The text is read -/

/-- What is read from the text of a record, and checked. -/
theorem Json.map_read_recordText {α : Type} {v : Json} (hv : v.IsWritable)
    {check : Json → Checked α} {a : α} (hcheck : check v = .ok a) :
    (Json.read v.recordText.toList).map check =
      match v.overlong? with
      | none => .ok (.ok a)
      | some n => .error (.tooManyDigits n) := by
  rw [Json.read_recordText hv]
  cases v.overlong? with
  | none => exact congrArg Except.ok hcheck
  | some n => rfl

/-- **Types, fields and models come back as they were.** The JSON form of every type is checked for
    that type, with no bound on how deep it is (the program gives up after 254 levels on writing,
    255 on validation, and 200 in a text). What passes for a type is what spells one, whatever else
    stands there; any other value is refused for the one fault of its first bad level, at its place.
    A field whose values can be written is read from its text, and so is a model: it is the same
    record, with its fields in their order. Only an integer with too many digits among their values,
    or as the number of documents, makes their text unreadable; it is refused for the first one. -/
theorem FieldModel.record_read_back (t : FieldType) (v : Json) (f : Field) (model : FieldModel) :
    FieldType.check t.toJson = .ok t ∧
    (FieldType.check v = .ok t ↔ SpellsType v t) ∧
    (∀ faults, FieldType.check v = .error faults ↔
      ∃ n w fault, LevelBelow n v w ∧ LevelFault w fault ∧ faults = [fault.below n]) ∧
    Field.check f.toJson = .ok f ∧
    ((∀ v ∈ f.samples, v.IsWritable) →
      (Json.read f.toJson.recordText.toList).map Field.check =
        match JsonOf.overlongItem? f.samples with
        | none => .ok (.ok f)
        | some n => .error (.tooManyDigits n)) ∧
    check model.toJson = .ok model ∧
    (model.keys.Nodup → (∀ e ∈ model.fields, ∀ v ∈ e.2.samples, v.IsWritable) →
      (Json.read model.toJson.recordText.toList).map check =
        match JsonOf.overlongItem? model.content with
        | none => .ok (.ok model)
        | some n => .error (.tooManyDigits n)) := by
  refine ⟨FieldType.check_of_spellsType t.spellsType_toJson, FieldType.check_eq_ok_iff,
    fun faults => FieldType.check_eq_error_iff, f.check_toJson, fun hf => ?_, model.check_toJson,
    fun hkeys hmodel => ?_⟩
  · rw [← Field.overlong?_toJson]
    exact Json.map_read_recordText (Field.isWritable_toJson hf) f.check_toJson
  · rw [← overlong?_toJson]
    exact Json.map_read_recordText (isWritable_toJson hkeys hmodel) model.check_toJson

/-- A model of two fields: lists of lists of dates, and objects. -/
def nestedModel : FieldModel where
  fields :=
    [("when", { name := "when", type := .array (.array (.scalar .date)), required := true,
                samples := [.arr [.arr [.str "2024-01-15"], .null]] }),
      ("meta", { name := "other", type := .mixed,
                 samples := [.obj [("z", .int (-3)), ("a", .double .zero)], .str "\n"] })]
  examined := 2

/-- A list of lists of nothing that is a type. -/
def nestedTuple : Json :=
  .obj [("element", .obj [("tag", .str "array"), ("kind", .null),
      ("element", .obj [("tag", .str "tuple")])]),
    ("tag", .str "array")]

theorem FieldModel.record_read_back_nestedModel :
    nestedModel.keys.Nodup ∧
    (∀ e ∈ nestedModel.fields, ∀ v ∈ e.2.samples, v.IsWritable) ∧
    (Json.read nestedModel.toJson.recordText.toList).map check = .ok (.ok nestedModel) ∧
    FieldType.check nestedTuple =
      .error [⟨[.name "array", .name "element", .name "array", .name "element"],
        .unknownTag "tuple"⟩] := by
  have hkeys : nestedModel.keys.Nodup := by decide
  have hdates : JsonOf.IsWritable (.arr [.arr [.str "2024-01-15"], .null]) :=
    .arr (List.forall_mem_cons.mpr ⟨.arr (List.forall_mem_singleton.mpr (.str _)),
      List.forall_mem_singleton.mpr .null⟩)
  have hobject : JsonOf.IsWritable (.obj [("z", .int (-3)), ("a", .double .zero)]) :=
    .obj (by decide) (List.forall_mem_cons.mpr ⟨.int _,
      List.forall_mem_singleton.mpr (.double _ _)⟩)
  have hwritable : ∀ e ∈ nestedModel.fields, ∀ v ∈ e.2.samples, v.IsWritable :=
    List.forall_mem_cons.mpr ⟨List.forall_mem_singleton.mpr hdates,
      List.forall_mem_singleton.mpr (List.forall_mem_cons.mpr ⟨hobject,
        List.forall_mem_singleton.mpr (.str _)⟩)⟩
  have hfault : LevelFault (.obj [("tag", .str "tuple")]) ⟨[], .unknownTag "tuple"⟩ :=
    .unknownTag (v := .str "tuple") rfl (by simp [FieldType.tags])
  have hlevel : LevelBelow 2 nestedTuple (.obj [("tag", .str "tuple")]) :=
    .element rfl rfl (.element rfl rfl (.here _))
  obtain ⟨_, _, hrefused, _, _, _, hread⟩ :=
    FieldModel.record_read_back .unknown nestedTuple { name := "", type := .unknown } nestedModel
  refine ⟨hkeys, hwritable, ?_, (hrefused _).mpr ⟨2, _, _, hlevel, hfault, rfl⟩⟩
  rw [hread hkeys hwritable]
  rfl

/-- A field with one value, an integer. -/
def Field.withSample (z : Int) : Field where
  name := "n"
  type := .scalar .int
  samples := [.int z]

/-- **A field with the value ten to the 4300 is written, and not read.** -/
theorem Field.long_sample_not_read :
    (∀ v ∈ (Field.withSample (10 ^ Numeral.maxDigits : Nat)).samples, v.IsWritable) ∧
    ∃ n, Json.read (Field.withSample (10 ^ Numeral.maxDigits : Nat)).toJson.recordText.toList =
      .error (.tooManyDigits n) := by
  obtain ⟨z, hz⟩ : ∃ z : Nat, z = 10 ^ Numeral.maxDigits := ⟨_, rfl⟩
  rw [← hz]
  have hwritable : ∀ v ∈ (Field.withSample z).samples, v.IsWritable :=
    List.forall_mem_singleton.mpr (.int z)
  have hmany : Numeral.maxDigits < digitCount z := by
    refine Nat.lt_of_not_le fun hfew => ?_
    rw [digitCount_le_iff (by decide), hz] at hfew
    exact Nat.lt_irrefl _ hfew
  have hlong : (Field.withSample z).toJson.overlong? = some (digitCount z) := by
    rw [Field.overlong?_toJson]
    show (JsonOf.overlong? (.int z)).or none = _
    rw [Option.or_none, JsonOf.overlong?, if_pos hmany]
  refine ⟨hwritable, digitCount z, ?_⟩
  rw [Json.read_recordText (Field.isWritable_toJson hwritable), hlong]

end SampleSchema
