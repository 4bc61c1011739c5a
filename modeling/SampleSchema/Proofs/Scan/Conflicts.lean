import SampleSchema.Proofs.FieldType.Join
import SampleSchema.Proofs.Scan.FieldWise

/-!
# Conflicts in a scan

Two strategies look at the types of a field with the same eyes. While they agree, `widen` and
`reject` hold their join (`heldType_widen`, `heldType_reject`); where two known types
differ, the one holds `mixed` from then on and the other gives up. So a scan under `reject` ends
without a conflict exactly if the types of every field agree, and then with the model of `widen`;
else it names the FIRST CONFLICT of the observations (`FieldModel.reject_agrees_with_widen`).
-/

namespace SampleSchema

open FieldType

/-! ## 1. The types of one field under each strategy -/

/-- Under `widen` a field holds the join of its types. -/
theorem heldType_widen {ε : Type} (key : String) (ts : List FieldType) :
    heldType (widen : MergeStrategy (Except ε)) key ts = .ok (joinAll ts) := by
  cases ts with
  | nil => rfl
  | cons t ts =>
    show ts.foldlM (fun held u => (pure (held.join u) : Except ε FieldType)) t = _
    rw [List.foldlM_pure, foldl_join, joinAll_cons]
    rfl

/-- One more type for a field whose types agree: a conflict if it is known and differs from a known
    type that the field holds. -/
theorem heldType_reject_append {key : String} {ts : List FieldType} (t : FieldType)
    (h : heldType reject key ts = .ok (joinAll ts)) :
    heldType reject key (ts ++ [t]) =
      match (joinAll ts).combine? t with
      | some u => .ok u
      | none => .error ⟨key, joinAll ts, t⟩ := by
  by_cases hts : ts = []
  · subst hts
    rw [joinAll_nil, unknown_combine?]
    rfl
  · rw [heldType_append_singleton reject key hts, h]
    rfl

/-- **Under `reject` a field holds the join of its types if they agree**, and else none. -/
theorem heldType_reject (key : String) (ts : List FieldType) :
    (Agree ts ∧ heldType reject key ts = .ok (joinAll ts)) ∨
    (¬ Agree ts ∧ ∃ c, heldType reject key ts = .error c) := by
  induction ts using List.reverseRecOn with
  | nil => exact Or.inl ⟨agree_nil, rfl⟩
  | append_singleton ts t ih =>
    rcases ih with ⟨hagree, hheld⟩ | ⟨hnot, c, hheld⟩
    · rw [agree_append_singleton hagree, heldType_reject_append t hheld, joinAll_append]
      show (_ ∧ _ = Except.ok ((joinAll ts).join (joinAll [t]))) ∨ _
      cases hc : (joinAll ts).combine? t with
      | some u =>
        refine Or.inl ⟨by simp, ?_⟩
        show Except.ok u = .ok (((joinAll ts).combine? (joinAll [t])).getD .mixed)
        rw [show joinAll [t] = t from unknown_join t, hc]
        rfl
      | none => exact Or.inr ⟨by simp, _, rfl⟩
    · have hts : ts ≠ [] := by
        rintro rfl
        exact hnot agree_nil
      refine Or.inr ⟨fun hall => hnot (hall.of_subset fun u hu => List.mem_append_left _ hu), c, ?_⟩
      rw [heldType_append_singleton reject key hts, hheld]
      rfl

theorem heldType_reject_eq_ok_iff {key : String} {ts : List FieldType} {t : FieldType} :
    heldType reject key ts = .ok t ↔ Agree ts ∧ joinAll ts = t := by
  rcases heldType_reject key ts with ⟨hagree, hheld⟩ | ⟨hnot, c, hheld⟩
  · rw [hheld]
    simp [hagree]
  · rw [hheld]
    simp [hnot]

/-! ## 2. The first conflict of observations -/

/-- **An observation conflicts with those before it**: its type is known, and is not the first known
    type of its field. -/
def Conflicts (before : List Observation) (o : Observation) (c : TypeConflict) : Prop :=
  c.field = o.1 ∧ c.observed = .ofJson o.2 ∧ c.observed ≠ .unknown ∧
    firstKnown? (typesOf before o.1) = some c.existing ∧ c.observed ≠ c.existing

/-- **The first conflict**: no observation before it conflicts with those before that one. -/
def IsFirstConflict (obs : List Observation) (c : TypeConflict) : Prop :=
  ∃ before o after, obs = before ++ o :: after ∧ Conflicts before o c ∧
    ∀ earlier o' later c', before = earlier ++ o' :: later → ¬ Conflicts earlier o' c'

/-- A conflict sets two types of one field apart. -/
theorem not_agree_of_conflicts {before after : List Observation} {o : Observation}
    {c : TypeConflict} (h : Conflicts before o c) :
    ¬ Agree (typesOf (before ++ o :: after) o.1) := by
  obtain ⟨_, hobserved, hknown, hfirst, hne⟩ := h
  obtain ⟨hmem, hk⟩ := firstKnown?_mem hfirst
  intro hagree
  have hsplit : typesOf (before ++ o :: after) o.1 =
      typesOf before o.1 ++ (.ofJson o.2 :: typesOf after o.1) := by
    rw [show before ++ o :: after = before ++ ([o] ++ after) from rfl, typesOf_append,
      typesOf_append, typesOf_singleton_self]
    rfl
  rw [hsplit, ← hobserved] at hagree
  exact hne (hagree c.observed (List.mem_append_right _ List.mem_cons_self) c.existing
    (List.mem_append_left _ hmem) hknown hk)

/-- Where a field comes to hold no type, its observation is a conflict. -/
theorem conflicts_of_heldType {before : List Observation} {o : Observation} {c : TypeConflict}
    (hbefore : Agree (typesOf before o.1))
    (h : heldType reject o.1 (typesOf (before ++ [o]) o.1) = .error c) : Conflicts before o c := by
  have hheld : heldType reject o.1 (typesOf before o.1) = .ok (joinAll (typesOf before o.1)) :=
    heldType_reject_eq_ok_iff.mpr ⟨hbefore, rfl⟩
  rw [typesOf_append, typesOf_singleton_self, heldType_reject_append _ hheld] at h
  cases hc : (joinAll (typesOf before o.1)).combine? (.ofJson o.2) with
  | some u => rw [hc] at h; cases h
  | none =>
    rw [hc] at h
    cases h
    obtain ⟨hk, htk, hne⟩ := combine?_eq_none_iff.mp hc
    refine ⟨rfl, rfl, htk, ?_, Ne.symm hne⟩
    show firstKnown? _ = some (joinAll _)
    rw [joinAll_of_agree hbefore] at hk ⊢
    cases hf : firstKnown? (typesOf before o.1) with
    | none => rw [hf] at hk; exact absurd rfl hk
    | some u => rfl

/-! ## 3. Two strategies, one judgement -/

section Judgement

variable {settings : InferenceSettings} {samples : List Json}

/-- A scan under `widen` always gives a model. -/
theorem FieldModel.ofSamples_widen {ε : Type} (settings : InferenceSettings)
    (samples : List Json) :
    ∃ model, FieldModel.ofSamples settings (widen : MergeStrategy (Except ε)) samples =
      .ok model := by
  cases h : FieldModel.ofSamples settings (widen : MergeStrategy (Except ε)) samples with
  | ok model => exact ⟨model, rfl⟩
  | error e =>
    rw [FieldModel.ofSamples_eq] at h
    cases hs : Scan.ofObservations settings (widen : MergeStrategy (Except ε))
        (observations settings samples) with
    | ok scan => rw [hs] at h; cases h
    | error e' =>
      obtain ⟨before, o, after, scan, _, _, herror⟩ := Scan.exists_of_error hs
      rw [heldType_widen] at herror
      cases herror

/-- The type of a field under `widen` is the join of the types of its values. -/
theorem FieldModel.type_widen {ε : Type} {model : FieldModel}
    (hD : FieldModel.Describes settings (widen : MergeStrategy (Except ε)) samples model)
    {key : String} {f : Field} (hf : model.get? key = some f) :
    f.type = joinAll (typesOf (observations settings samples) key) := by
  have htype := (hD.field key f hf).1
  rw [heldType_widen] at htype
  exact (Except.ok.inj htype).symm

/-- Under `reject` a model means that the types of every field agree. -/
theorem FieldModel.agree_of_ofSamples_reject {model : FieldModel}
    (h : FieldModel.ofSamples settings reject samples = .ok model) (key : String) :
    Agree (typesOf (observations settings samples) key) := by
  have hD := FieldModel.describes_of_ok h
  by_cases hk : key ∈ fieldKeys (observations settings samples)
  · obtain ⟨f, hf⟩ := hD.exists_field hk
    exact (heldType_reject_eq_ok_iff.mp (hD.field key f hf).1).1
  · rw [typesOf_eq_nil_iff.mpr hk]
    exact agree_nil

/-- Under `reject` an error is the first conflict. -/
theorem FieldModel.isFirstConflict_of_ofSamples_reject {c : TypeConflict}
    (h : FieldModel.ofSamples settings reject samples = .error c) :
    IsFirstConflict (observations settings samples) c := by
  rw [FieldModel.ofSamples_eq] at h
  cases hs : Scan.ofObservations settings reject (observations settings samples) with
  | ok scan => rw [hs] at h; cases h
  | error c' =>
    rw [hs] at h
    cases h
    obtain ⟨before, o, after, scan, hobs, hscan, herror⟩ := Scan.exists_of_error hs
    -- the scan of the observations before it knows that their types agree
    have hagree : ∀ key, Agree (typesOf before key) := by
      intro key
      have hF := Scan.follows_of_ok hscan
      cases hg : Entries.get? scan.tallies key with
      | none =>
        rw [typesOf_eq_nil_iff.mpr ((hF.get?_eq_none_iff key).mp hg)]
        exact agree_nil
      | some t => exact (heldType_reject_eq_ok_iff.mp (hF.type key t hg)).1
    refine ⟨before, o, after, hobs, conflicts_of_heldType (hagree o.1) herror, ?_⟩
    rintro earlier o' later c' rfl hconflict
    exact not_agree_of_conflicts hconflict (hagree o'.1)

end Judgement

/-- **What is a conflict to one strategy is one to the other.** Under `reject` there is a model
    exactly if no field has two known types that differ, and it is the model of `widen`. Else the
    first conflict is named, and its field is `mixed` under `widen`. -/
theorem FieldModel.reject_agrees_with_widen (settings : InferenceSettings) (samples : List Json)
    (hlimit : settings.sampleLimit ≤ maxSampleLimit) :
    let obs := observations settings (samples.take settings.sampleLimit)
    let rejecting := FieldModel.ofJson settings reject (.arr samples)
    let widening :=
      FieldModel.ofJson settings (widen : MergeStrategy (Except TypeConflict)) (.arr samples)
    ((∃ model, rejecting = .ok (.ok model)) ↔ ∀ key, Agree (typesOf obs key)) ∧
    (∀ model, rejecting = .ok (.ok model) → widening = .ok (.ok model)) ∧
    ((¬ ∀ key, Agree (typesOf obs key)) → ∃ c model f,
      rejecting = .ok (.error c) ∧ IsFirstConflict obs c ∧
      widening = .ok (.ok model) ∧ model.get? c.field = some f ∧ f.type = .mixed) := by
  intro obs rejecting widening
  have hrejecting : rejecting =
      .ok (FieldModel.ofSamples settings reject (samples.take settings.sampleLimit)) :=
    FieldModel.ofJson_eq_ofSamples reject (Or.inl rfl) hlimit
  obtain ⟨widened, hw⟩ :=
    FieldModel.ofSamples_widen (ε := TypeConflict) settings (samples.take settings.sampleLimit)
  have hwidening : widening = .ok (.ok widened) := by
    rw [← hw]
    exact FieldModel.ofJson_eq_ofSamples widen (Or.inl rfl) hlimit
  have hD := FieldModel.describes_of_ok hw
  cases hr : FieldModel.ofSamples settings reject (samples.take settings.sampleLimit) with
  | ok model =>
    have hagree := FieldModel.agree_of_ofSamples_reject hr
    refine ⟨⟨fun _ => hagree, fun _ => ⟨model, by rw [hrejecting, hr]⟩⟩, fun model' h => ?_,
      fun hnot => absurd hagree hnot⟩
    rw [hrejecting, hr] at h
    cases h
    have hsame : model = widened := by
      refine (FieldModel.describes_of_ok hr).eq_of_heldType hD fun key t ht => ?_
      rw [heldType_widen, (heldType_reject_eq_ok_iff.mp ht).2]
    rw [hwidening, hsame]
  | error c =>
    have hfirst := FieldModel.isFirstConflict_of_ofSamples_reject hr
    have hnot : ¬ Agree (typesOf obs c.field) := by
      obtain ⟨before, o, after, hobs, hconflict, _⟩ := hfirst
      show ¬ Agree (typesOf (observations settings _) c.field)
      rw [hobs, hconflict.1]
      exact not_agree_of_conflicts hconflict
    have hmet : c.field ∈ fieldKeys obs := by
      refine Classical.byContradiction fun hk => hnot ?_
      rw [typesOf_eq_nil_iff.mpr hk]
      exact agree_nil
    obtain ⟨f, hf⟩ := hD.exists_field hmet
    have htype : f.type = .mixed := by
      rw [FieldModel.type_widen hD hf]
      exact joinAll_of_not_agree hnot
    refine ⟨⟨fun ⟨model, h⟩ => ?_, fun hagree => absurd (hagree c.field) hnot⟩, fun model h => ?_,
      fun _ => ⟨c, widened, f, by rw [hrejecting, hr], hfirst, hwidening, hf, htype⟩⟩
    · rw [hrejecting, hr] at h
      cases h
    · rw [hrejecting, hr] at h
      cases h

theorem FieldModel.reject_agrees_with_widen_conflictingSamples :
    InferenceSettings.standard.sampleLimit ≤ maxSampleLimit ∧
    ¬ Agree (typesOf (observations .standard conflictingSamples) "n") ∧
    FieldModel.ofJson .standard reject (.arr conflictingSamples) =
      .ok (.error ⟨"n", .scalar .int, .scalar .boolean⟩) ∧
    IsFirstConflict (observations .standard conflictingSamples)
      ⟨"n", .scalar .int, .scalar .boolean⟩ ∧
    ∃ model f, FieldModel.ofJson .standard (widen : MergeStrategy (Except TypeConflict))
        (.arr conflictingSamples) = .ok (.ok model) ∧
      model.get? "n" = some f ∧ f.type = .mixed := by
  have hlimit : InferenceSettings.standard.sampleLimit ≤ maxSampleLimit := by decide
  have hnot : ¬ Agree (typesOf (observations .standard conflictingSamples) "n") := by decide
  have hreject : FieldModel.ofJson .standard reject (.arr conflictingSamples) =
      .ok (.error ⟨"n", .scalar .int, .scalar .boolean⟩) := by rfl
  obtain ⟨c, model, f, hr, hfirst, hw, hf, hmixed⟩ :=
    (FieldModel.reject_agrees_with_widen .standard conflictingSamples hlimit).2.2
      fun h => hnot (h "n")
  rw [hreject] at hr
  cases hr
  exact ⟨hlimit, hnot, hreject, hfirst, model, f, hw, hf, hmixed⟩

end SampleSchema
