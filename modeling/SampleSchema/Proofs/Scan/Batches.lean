import Mathlib.Data.List.Forall2
import SampleSchema.Proofs.Scan.Conflicts

/-!
# Order and batches under the widening strategy

Under `widen` the type of a field is the join of the types of its values, so it depends on them as a
collection only. Two samples are REORDERED forms of each other if they differ in the order in which
objects hold their members, at any depth; samples are REARRANGED if they come in another order, each
in a reordered form. The main statement, `FieldModel.widen_order_free`, says what the type of a
field is, that rearranged samples give the same fields, and that the samples can be cut into two
batches whose types are widened afterwards.
-/

namespace SampleSchema

open FieldType

/-! ## 1. Samples in another order -/

/-- Two values that differ in the order of members of objects. -/
inductive JsonOf.Reordered : Json → Json → Prop where
  | refl (v : Json) : Reordered v v
  | trans {u v w : Json} (h₁ : Reordered u v) (h₂ : Reordered v w) : Reordered u w
  | members {ms ms' : List (String × Json)} (h : ms.Perm ms') : Reordered (.obj ms) (.obj ms')
  | value {before after : List (String × Json)} {key : String} {v v' : Json}
      (h : Reordered v v') :
      Reordered (.obj (before ++ (key, v) :: after)) (.obj (before ++ (key, v') :: after))
  | item {before after : List Json} {v v' : Json} (h : Reordered v v') :
      Reordered (.arr (before ++ v :: after)) (.arr (before ++ v' :: after))

/-- The same samples in any order, and in any order of their members. -/
def Rearranged (samples samples' : List Json) : Prop :=
  ∃ between, samples.Perm between ∧ List.Forall₂ JsonOf.Reordered between samples'

/-- An observation without its value: the field, and the type of the value. -/
def typed (o : Observation) : String × FieldType := (o.1, .ofJson o.2)

theorem typesOf_eq_typed (obs : List Observation) (key : String) :
    typesOf obs key = ((obs.map typed).filter (·.1 == key)).map (·.2) := by
  unfold typesOf valuesOf
  rw [List.filter_map, List.map_map, List.map_map]
  rfl

/-- Reordered values have the same type, and their members the same keys and types. -/
theorem JsonOf.Reordered.same {v w : Json} (h : JsonOf.Reordered v w) :
    FieldType.ofJson v = .ofJson w ∧ v.isObject = w.isObject ∧
      (v.members.map typed).Perm (w.members.map typed) := by
  induction h with
  | refl v => exact ⟨rfl, rfl, .refl _⟩
  | trans _ _ ih₁ ih₂ => exact ⟨ih₁.1.trans ih₂.1, ih₁.2.1.trans ih₂.2.1, ih₁.2.2.trans ih₂.2.2⟩
  | members h => exact ⟨rfl, rfl, h.map typed⟩
  | @value before after key v v' _ ih =>
    refine ⟨rfl, rfl, ?_⟩
    have hone : typed (key, v) = typed (key, v') := congrArg (Prod.mk key) ih.1
    show ((before ++ (key, v) :: after).map typed).Perm ((before ++ (key, v') :: after).map typed)
    rw [List.map_append, List.map_append, List.map_cons, List.map_cons, hone]
  | @item before after v v' _ ih =>
    refine ⟨?_, rfl, .refl _⟩
    cases before with
    | nil => exact congrArg FieldType.array ih.1
    | cons u before => rfl

theorem observations_cons (settings : InferenceSettings) (v : Json) (samples : List Json) :
    observations settings (v :: samples) =
      (v.members.filter fun e => !settings.reservedKeys.contains e.1) ++
        observations settings samples := by
  cases v <;> rfl

section Rearranged

variable {samples samples' : List Json}

/-- **Rearranged samples give the same observations**, in some order and up to their values. -/
theorem Rearranged.observations_perm (settings : InferenceSettings)
    (h : Rearranged samples samples') :
    ((observations settings samples).map typed).Perm
      ((observations settings samples').map typed) := by
  obtain ⟨between, hperm, hall⟩ := h
  have hfirst : (observations settings samples).Perm (observations settings between) :=
    (hperm.filterMap _).flatMap_right _
  refine (hfirst.map typed).trans ?_
  clear hfirst hperm
  induction hall with
  | nil => exact .refl _
  | @cons v w rest rest' hvw _ ih =>
    have hunreserved : ∀ ms : List (String × Json),
        (ms.filter fun e => !settings.reservedKeys.contains e.1).map typed =
          (ms.map typed).filter fun e => !settings.reservedKeys.contains e.1 := by
      intro ms
      rw [List.filter_map]
      rfl
    rw [observations_cons, observations_cons, List.map_append, List.map_append, hunreserved,
      hunreserved]
    exact (hvw.same.2.2.filter _).append ih

theorem Rearranged.length_documents (h : Rearranged samples samples') :
    (documents samples).length = (documents samples').length := by
  obtain ⟨between, hperm, hall⟩ := h
  rw [SampleSchema.length_documents, SampleSchema.length_documents, hperm.countP_eq]
  clear hperm
  induction hall with
  | nil => rfl
  | cons hvw _ ih => rw [List.countP_cons, List.countP_cons, hvw.same.2.1, ih]

theorem Rearranged.typesOf_perm (settings : InferenceSettings) (h : Rearranged samples samples')
    (key : String) :
    (typesOf (observations settings samples) key).Perm
      (typesOf (observations settings samples') key) := by
  rw [typesOf_eq_typed, typesOf_eq_typed]
  exact ((h.observations_perm settings).filter _).map _

theorem Rearranged.fieldKeys_perm (settings : InferenceSettings) (h : Rearranged samples samples') :
    (fieldKeys (observations settings samples)).Perm
      (fieldKeys (observations settings samples')) := by
  refine (List.perm_ext_iff_of_nodup (nodup_fieldKeys _) (nodup_fieldKeys _)).mpr fun key => ?_
  have hkeys := (h.observations_perm settings).map (·.1)
  rw [List.map_map, List.map_map] at hkeys
  rw [mem_fieldKeys, mem_fieldKeys]
  exact hkeys.mem_iff

theorem Rearranged.length_eq (h : Rearranged samples samples') :
    samples.length = samples'.length := by
  obtain ⟨between, hperm, hall⟩ := h
  rw [hperm.length_eq, hall.length_eq]

end Rearranged

/-! ## 2. The model of a list of samples -/

section Widened

variable {ε : Type} {settings : InferenceSettings} {samples : List Json} {model : FieldModel}

/-- Samples that fit in the limit are all looked at. -/
theorem FieldModel.ofJson_widen (hfit : samples.length ≤ settings.sampleLimit)
    (hlimit : settings.sampleLimit ≤ maxSampleLimit) :
    ∃ model, FieldModel.ofJson settings (widen : MergeStrategy (Except ε)) (.arr samples) =
        .ok (.ok model) ∧
      FieldModel.Describes settings (widen : MergeStrategy (Except ε)) samples model := by
  obtain ⟨model, hmodel⟩ := FieldModel.ofSamples_widen (ε := ε) settings samples
  refine ⟨model, ?_, FieldModel.describes_of_ok hmodel⟩
  rw [FieldModel.ofJson_eq_ofSamples widen (Or.inl rfl) hlimit, List.take_of_length_le hfit,
    hmodel]

section Describes

variable (hD : FieldModel.Describes settings (widen : MergeStrategy (Except ε)) samples model)
include hD

/-- A field that is met has the join of its types. -/
theorem FieldModel.get?_widen {key : String}
    (hmet : typesOf (observations settings samples) key ≠ []) :
    ∃ f, model.get? key = some f ∧
      f.type = joinAll (typesOf (observations settings samples) key) := by
  have hk : key ∈ fieldKeys (observations settings samples) :=
    Classical.byContradiction fun hk => hmet (typesOf_eq_nil_iff.mpr hk)
  obtain ⟨f, hf⟩ := hD.exists_field hk
  exact ⟨f, hf, FieldModel.type_widen hD hf⟩

theorem FieldModel.Describes.typesOf_eq_nil_of_get? {key : String} (hnone : model.get? key = none) :
    typesOf (observations settings samples) key = [] :=
  typesOf_eq_nil_iff.mpr ((hD.get?_eq_none_iff key).mp hnone)

theorem FieldModel.Describes.typesOf_ne_nil_of_get? {key : String} {f : Field}
    (hf : model.get? key = some f) : typesOf (observations settings samples) key ≠ [] :=
  fun hnil => typesOf_eq_nil_iff.mp hnil (hD.met hf)

/-- **Rearranged samples have the same fields**, up to their order and the values kept. -/
theorem FieldModel.same_of_rearranged {samples' : List Json} {model' : FieldModel}
    (hD' : FieldModel.Describes settings (widen : MergeStrategy (Except ε)) samples' model')
    (h : Rearranged samples samples') :
    model'.keys.Perm model.keys ∧ model'.examined = model.examined ∧
      ∀ key f f', model.get? key = some f → model'.get? key = some f' →
        f'.type = f.type ∧ f'.required = f.required := by
  have hexamined : model'.examined = model.examined := by
    rw [hD.examined, hD'.examined, h.length_documents]
  refine ⟨?_, hexamined, fun key f f' hf hf' => ⟨?_, ?_⟩⟩
  · rw [hD.keys, hD'.keys]
    exact (h.fieldKeys_perm settings).symm
  · rw [FieldModel.type_widen hD hf, FieldModel.type_widen hD' hf']
    exact joinAll_perm (h.typesOf_perm settings key).symm
  · have hcount : (valuesOf (observations settings samples') key).length =
        (valuesOf (observations settings samples) key).length := by
      have hlength := (h.typesOf_perm settings key).length_eq
      unfold typesOf at hlength
      rw [List.length_map, List.length_map] at hlength
      exact hlength.symm
    rw [(hD.field key f hf).2.2.1, (hD'.field key f' hf').2.2.1, hcount, hexamined]

/-- **The types of two batches widen to the types of both together.** -/
theorem FieldModel.get?_of_batches {xs ys : List Json} {front back : FieldModel}
    (hfront : FieldModel.Describes settings (widen : MergeStrategy (Except ε)) xs front)
    (hback : FieldModel.Describes settings (widen : MergeStrategy (Except ε)) ys back)
    (hsplit : samples = xs ++ ys) (key : String) :
    (model.get? key).map (·.type) =
      match front.get? key, back.get? key with
      | some f, some g => some (f.type.join g.type)
      | some f, none => some f.type
      | none, some g => some g.type
      | none, none => none := by
  have htypes : typesOf (observations settings samples) key =
      typesOf (observations settings xs) key ++ typesOf (observations settings ys) key := by
    rw [hsplit, observations_append, typesOf_append]
  cases hf : front.get? key with
  | some f =>
    have hmet : typesOf (observations settings samples) key ≠ [] := by
      rw [htypes]
      exact List.append_ne_nil_of_left_ne_nil (hfront.typesOf_ne_nil_of_get? hf) _
    obtain ⟨h, hh, htype⟩ := FieldModel.get?_widen hD hmet
    rw [htypes, joinAll_append, ← FieldModel.type_widen hfront hf] at htype
    rw [hh]
    cases hg : back.get? key with
    | some g =>
      rw [← FieldModel.type_widen hback hg] at htype
      exact congrArg some htype
    | none =>
      rw [hback.typesOf_eq_nil_of_get? hg, joinAll_nil, join_unknown] at htype
      exact congrArg some htype
  | none =>
    rw [hfront.typesOf_eq_nil_of_get? hf, List.nil_append] at htypes
    cases hg : back.get? key with
    | some g =>
      obtain ⟨h, hh, htype⟩ :=
        FieldModel.get?_widen hD (htypes ▸ hback.typesOf_ne_nil_of_get? hg)
      rw [htypes, ← FieldModel.type_widen hback hg] at htype
      rw [hh]
      exact congrArg some htype
    | none =>
      have hnil := hback.typesOf_eq_nil_of_get? hg
      rw [← htypes] at hnil
      rw [(hD.get?_eq_none_iff key).mpr (typesOf_eq_nil_iff.mp hnil)]
      rfl

end Describes

end Widened

/-! ## 3. Order and batches -/

/-- **The types of a scan under `widen` do not depend on order or batches.** Samples that fit in the
    limit have a model, and in it the field of a key has the type that the types of its values widen
    to. Rearranged samples have a model with the same keys, the same number of documents, and for
    each key the same type and the same mark. Of two batches that the samples are cut into, a field
    of both has the type that `widen` makes of its two types, and a field of one its type there. -/
theorem FieldModel.widen_order_free {ε : Type} (settings : InferenceSettings) {samples : List Json}
    (hfit : samples.length ≤ settings.sampleLimit) :
    let strategy : MergeStrategy (Except ε) := widen
    let widened := fun samples => FieldModel.ofJson settings strategy (.arr samples)
    let types := typesOf (observations settings samples)
    (settings.sampleLimit ≤ maxSampleLimit → ∃ model, widened samples = .ok (.ok model)) ∧
    ∀ model, widened samples = .ok (.ok model) →
      (∀ key, types key ≠ [] ↔ key ∈ model.keys) ∧
      (∀ key f, model.get? key = some f → WidensTo (types key) f.type) ∧
      (∀ samples', Rearranged samples samples' → ∃ model', widened samples' = .ok (.ok model') ∧
        model'.keys.Perm model.keys ∧ model'.examined = model.examined ∧
        ∀ key f f', model.get? key = some f → model'.get? key = some f' →
          f'.type = f.type ∧ f'.required = f.required) ∧
      (∀ xs ys, samples = xs ++ ys → ∃ front back,
        widened xs = .ok (.ok front) ∧ widened ys = .ok (.ok back) ∧
        ∀ key, match front.get? key, back.get? key with
          | some f, some g =>
            ∃ h, model.get? key = some h ∧ strategy key f.type g.type = .ok h.type
          | some f, none => ∃ h, model.get? key = some h ∧ h.type = f.type
          | none, some g => ∃ h, model.get? key = some h ∧ h.type = g.type
          | none, none => model.get? key = none) := by
  intro strategy widened types
  refine ⟨fun hlimit => ?_, fun model hmodel => ?_⟩
  · obtain ⟨model, hmodel, _⟩ := FieldModel.ofJson_widen (ε := ε) hfit hlimit
    exact ⟨model, hmodel⟩
  have hlimit := FieldModel.sampleLimit_le_of_ofJson hmodel
  have hD : FieldModel.Describes settings strategy samples model := by
    obtain ⟨model', hmodel', hD⟩ := FieldModel.ofJson_widen (ε := ε) hfit hlimit
    cases hmodel.symm.trans hmodel'
    exact hD
  refine ⟨fun key => ?_, fun key f hf => ?_, fun samples' hrearranged => ?_,
    fun xs ys hsplit => ?_⟩
  · rw [Ne, typesOf_eq_nil_iff, Classical.not_not, hD.keys]
  · exact widensTo_iff.mpr (FieldModel.type_widen hD hf).symm
  · obtain ⟨model', hmodel', hD'⟩ :=
      FieldModel.ofJson_widen (ε := ε) (hrearranged.length_eq ▸ hfit) hlimit
    exact ⟨model', hmodel', FieldModel.same_of_rearranged hD hD' hrearranged⟩
  · have hlength : xs.length + ys.length ≤ settings.sampleLimit := by
      rw [hsplit, List.length_append] at hfit
      exact hfit
    obtain ⟨front, hxs, hfront⟩ :=
      FieldModel.ofJson_widen (ε := ε) (Nat.le_of_add_right_le hlength) hlimit
    obtain ⟨back, hys, hback⟩ :=
      FieldModel.ofJson_widen (ε := ε) (Nat.le_trans (Nat.le_add_left _ _) hlength) hlimit
    refine ⟨front, back, hxs, hys, fun key => ?_⟩
    have hget := FieldModel.get?_of_batches hD hfront hback hsplit key
    cases hf : front.get? key with
    | some f =>
      cases hg : back.get? key with
      | some g =>
        rw [hf, hg] at hget
        obtain ⟨h, hh, htype⟩ := Option.map_eq_some_iff.mp hget
        exact ⟨h, hh, congrArg Except.ok htype.symm⟩
      | none =>
        rw [hf, hg] at hget
        exact Option.map_eq_some_iff.mp hget
    | none =>
      cases hg : back.get? key with
      | some g =>
        rw [hf, hg] at hget
        exact Option.map_eq_some_iff.mp hget
      | none =>
        rw [hf, hg] at hget
        exact Option.map_eq_none_iff.mp hget

/-- The samples that disagree, from the last to the first and one of them with its members in the
    other order. -/
theorem FieldModel.widen_order_free_conflictingSamples :
    conflictingSamples.length ≤ InferenceSettings.standard.sampleLimit ∧
    ∃ model, FieldModel.ofJson .standard (widen : MergeStrategy (Except TypeConflict))
        (.arr conflictingSamples) = .ok (.ok model) ∧
      (∀ f, model.get? "m" = some f → f.type = .mixed) ∧
      ∃ model', FieldModel.ofJson .standard (widen : MergeStrategy (Except TypeConflict))
          (.arr [.obj [("m", .arr [])], .obj [("n", .bool false), ("m", .bool true)],
            .obj [("n", .int 1), ("m", .null)], .bool true, .obj [("_id", .int 7), ("n", .null)]]) =
          .ok (.ok model') ∧ model'.keys.Perm model.keys := by
  have hfit : conflictingSamples.length ≤ InferenceSettings.standard.sampleLimit := by decide
  obtain ⟨hexists, hall⟩ := FieldModel.widen_order_free (ε := TypeConflict) .standard hfit
  obtain ⟨model, hmodel⟩ := hexists (by decide)
  obtain ⟨_, htypes, hrearranged, _⟩ := hall model hmodel
  have hback : Rearranged conflictingSamples
      [.obj [("m", .arr [])], .obj [("n", .bool false), ("m", .bool true)],
        .obj [("n", .int 1), ("m", .null)], .bool true, .obj [("_id", .int 7), ("n", .null)]] := by
    refine ⟨conflictingSamples.reverse, (List.reverse_perm _).symm, ?_⟩
    exact .cons (.refl _) (.cons (.members (.swap _ _ _)) (.cons (.refl _) (.cons (.refl _)
      (.cons (.refl _) .nil))))
  obtain ⟨model', hmodel', hkeys, _⟩ := hrearranged _ hback
  refine ⟨hfit, model, hmodel, fun f hf => ?_, model', hmodel', hkeys⟩
  rw [← widensTo_iff.mp (htypes "m" f hf)]
  rfl

end SampleSchema
