import SampleSchema.Proofs.Scan.Batches
import SampleSchema.Proofs.Scan.Outline

/-!
# More samples only extend a model

A model GOES ON in a second one if that has all of its keys in front, of each field at least the
values, and so many documents more (`FieldModel.GoesOn`). Every model of samples goes on in every
model of these and more samples, whatever the strategy: this is read off the outlines
(`FieldModel.Outlines.goesOn`). What may become of a type is the strategy's own affair; `keepFirst`
leaves it, and `widen` only makes it `mixed` unless nothing was known.

Samples are added at the end of a list, or by a greater limit on one list
(`FieldModel.more_samples_go_on`).
-/

namespace SampleSchema

open MonadAttach FieldType

/-! ## 1. Models that go on -/

/-- **A model goes on in another**, with `more` documents and types that may become others. -/
structure FieldModel.GoesOn (front back : FieldModel) (more : Nat)
    (mayBecome : FieldType → FieldType → Prop) : Prop where
  keys : front.keys <+: back.keys
  examined : back.examined = front.examined + more
  field : ∀ key f, front.get? key = some f → ∃ g, back.get? key = some g ∧ g.name = f.name ∧
    f.samples <+: g.samples ∧ mayBecome f.type g.type

/-- What may become of a type under `widen`. -/
def FieldType.MayWidenTo (t u : FieldType) : Prop := u = t ∨ t = .unknown ∨ u = .mixed

theorem FieldType.mayWidenTo_join (t u : FieldType) : t.MayWidenTo (t.join u) := by
  by_cases hu : u = .unknown
  · exact .inl (by rw [hu, join_unknown])
  · by_cases ht : t = .unknown
    · exact .inr (.inl ht)
    · by_cases h : t = u
      · exact .inl (by rw [h, join_self])
      · exact .inr (.inr (join_of_ne ht hu h))

/-- **What a first look at samples may give goes on in what a further one may give**: whatever the
    strategy, and with types that stay under `keepFirst` and at most widen under `widen`. -/
structure GoOn (m : Type → Type) [Monad m] (first further : MergeStrategy m → FieldModel → Prop)
    (more : Nat) : Prop where
  always : ∀ merge front back, first merge front → further merge back →
    front.GoesOn back more fun _ _ => True
  keepFirst : ∀ front back, first keepFirst front → further keepFirst back →
    front.GoesOn back more Eq
  widen : ∀ front back, first widen front → further widen back →
    front.GoesOn back more FieldType.MayWidenTo

/-! ## 2. Samples and more of them -/

section Append

variable {settings : InferenceSettings} {xs ys : List Json} {front back : FieldModel}

/-- **A model of samples goes on in a model of more**, as far as its types may. -/
theorem FieldModel.Outlines.goesOn {mayBecome : FieldType → FieldType → Prop}
    (hfront : Outlines settings xs front) (hback : Outlines settings (xs ++ ys) back)
    (htypes : ∀ key f g, front.get? key = some f → back.get? key = some g →
      mayBecome f.type g.type) :
    front.GoesOn back (ys.countP (·.isObject)) mayBecome := by
  have hkeys : fieldKeys (observations settings xs) <+:
      fieldKeys (observations settings (xs ++ ys)) := by
    rw [observations_append]
    exact fieldKeys_prefix _ _
  refine ⟨?_, ?_, fun key f hf => ?_⟩
  · rw [hfront.keys, hback.keys]
    exact hkeys
  · rw [hfront.examined, hback.examined, length_documents, length_documents, List.countP_append]
  · obtain ⟨g, hg⟩ := hback.exists_field (hkeys.subset (hfront.met hf))
    obtain ⟨hname, _, hsamples⟩ := hfront.field key f hf
    obtain ⟨hname', _, hsamples'⟩ := hback.field key g hg
    refine ⟨g, hg, hname'.trans hname.symm, ?_, htypes key f g hf hg⟩
    rw [hsamples, hsamples', observations_append, valuesOf_append]
    exact (List.prefix_append _ _).take _

variable {m : Type → Type} [Monad m] [LawfulMonad m] [MonadAttach m] [LawfulMonadAttach m]

/-- The type that a field holds, from the first value on. -/
theorem heldType_keepFirst {ε : Type} (key : String) (t : FieldType) (ts : List FieldType) :
    heldType (keepFirst : MergeStrategy (Except ε)) key (t :: ts) = .ok t := by
  show ts.foldlM (fun held _ => (pure held : Except ε FieldType)) t = _
  rw [List.foldlM_pure, List.foldl_fixed]
  rfl

theorem FieldModel.type_eq_of_keepFirst
    (hfront : CanReturn (ofSamples settings (keepFirst : MergeStrategy m) xs) front)
    (hback : CanReturn (ofSamples settings (keepFirst : MergeStrategy m) (xs ++ ys)) back)
    {key : String} {f g : Field} (hf : front.get? key = some f) (hg : back.get? key = some g) :
    f.type = g.type := by
  have hD := describes_of_canReturn (fun _ t _ => t) hfront
  have htype := (hD.field key f hf).1
  have htype' := ((describes_of_canReturn (fun _ t _ => t) hback).field key g hg).1
  rw [observations_append, typesOf_append] at htype'
  cases hts : typesOf (observations settings xs) key with
  | nil => exact absurd (hD.met hf) (typesOf_eq_nil_iff.mp hts)
  | cons t ts =>
    rw [hts] at htype htype'
    have hfirst := (heldType_keepFirst key t ts).symm.trans htype
    have hfirst' := (heldType_keepFirst key t (ts ++ _)).symm.trans htype'
    rw [← Except.ok.inj hfirst, ← Except.ok.inj hfirst']

theorem FieldModel.mayWidenTo_of_widen
    (hfront : CanReturn (ofSamples settings (widen : MergeStrategy m) xs) front)
    (hback : CanReturn (ofSamples settings (widen : MergeStrategy m) (xs ++ ys)) back)
    {key : String} {f g : Field} (hf : front.get? key = some f) (hg : back.get? key = some g) :
    f.type.MayWidenTo g.type := by
  have hD := describes_of_canReturn (fun _ t u => t.join u) hfront
  have hD' := describes_of_canReturn (fun _ t u => t.join u) hback
  rw [FieldModel.type_widen hD hf, FieldModel.type_widen hD' hg, observations_append,
    typesOf_append, joinAll_append]
  exact mayWidenTo_join _ _

variable (settings xs ys) in
/-- **What samples give goes on in what they and more samples give.** -/
theorem goOn_of_append {first further : MergeStrategy m → FieldModel → Prop}
    (hfirst : ∀ merge model, first merge model →
      CanReturn (FieldModel.ofSamples settings merge xs) model)
    (hfurther : ∀ merge model, further merge model →
      CanReturn (FieldModel.ofSamples settings merge (xs ++ ys)) model) :
    GoOn m first further (ys.countP (·.isObject)) where
  always _ _ _ h h' :=
    (FieldModel.outlines_of_canReturn (hfirst _ _ h)).goesOn
      (FieldModel.outlines_of_canReturn (hfurther _ _ h')) fun _ _ _ _ _ => trivial
  keepFirst _ _ h h' :=
    (FieldModel.outlines_of_canReturn (hfirst _ _ h)).goesOn
      (FieldModel.outlines_of_canReturn (hfurther _ _ h')) fun _ _ _ hf hg =>
        FieldModel.type_eq_of_keepFirst (hfirst _ _ h) (hfurther _ _ h') hf hg
  widen _ _ h h' :=
    (FieldModel.outlines_of_canReturn (hfirst _ _ h)).goesOn
      (FieldModel.outlines_of_canReturn (hfurther _ _ h')) fun _ _ _ hf hg =>
        FieldModel.mayWidenTo_of_widen (hfirst _ _ h) (hfurther _ _ h') hf hg

end Append

/-! ## 3. Longer lists and greater limits -/

/-- The same settings with another limit of samples. -/
def InferenceSettings.limitedTo (settings : InferenceSettings) (limit : Nat) (h : 1 ≤ limit) :
    InferenceSettings :=
  { settings with sampleLimit := limit, one_le_sampleLimit := h }

section Analyses

variable {m : Type → Type} [Monad m] [LawfulMonad m] [MonadAttach m] [LawfulMonadAttach m]

omit [LawfulMonad m] [LawfulMonadAttach m] in
/-- What may be given for an array may be given for its first elements. -/
theorem FieldModel.IsGiven.canReturn {settings : InferenceSettings} {merge : MergeStrategy m}
    {samples : List Json} {model : FieldModel} (h : IsGiven settings merge (.arr samples) model) :
    CanReturn (ofSamples settings merge (samples.take settings.sampleLimit)) model := by
  obtain ⟨run, hrun, hmodel⟩ := h
  rw [ofSamples_of_ofJson (Or.inl rfl) hrun]
  exact hmodel

/-- **Looking at more samples only extends the model.** Under any settings and for a strategy with
    any effects, every model of samples goes on in every model of these samples and others behind
    them, as long as all fit in the limit, and in every model that the same samples give under a
    greater limit: its keys stand in front, the values of each field are the first ones, and the
    documents are as many more as there are objects among the samples that are looked at besides.
    Under `keepFirst` the types stay. Under `widen` a type stays, was `unknown`, or becomes
    `mixed`. -/
theorem FieldModel.more_samples_go_on (settings : InferenceSettings) :
    (∀ xs ys, xs.length + ys.length ≤ settings.sampleLimit →
      GoOn m (fun merge => IsGiven settings merge (.arr xs))
        (fun merge => IsGiven settings merge (.arr (xs ++ ys))) (ys.countP (·.isObject))) ∧
    (∀ samples limit limit' (h : 1 ≤ limit) (h' : limit ≤ limit'),
      GoOn m (fun merge => IsGiven (settings.limitedTo limit h) merge (.arr samples))
        (fun merge => IsGiven (settings.limitedTo limit' (h.trans h')) merge (.arr samples))
        (((samples.take limit').drop limit).countP (·.isObject))) := by
  refine ⟨fun xs ys hfit => ?_, fun samples limit limit' h h' => ?_⟩
  · have hxs : xs.take settings.sampleLimit = xs := List.take_of_length_le (by omega)
    have hall : (xs ++ ys).take settings.sampleLimit = xs ++ ys :=
      List.take_of_length_le (by rw [List.length_append]; exact hfit)
    refine goOn_of_append settings xs ys (fun merge model hmodel => ?_)
      fun merge model hmodel => ?_
    · rw [← hxs]
      exact hmodel.canReturn
    · rw [← hall]
      exact hmodel.canReturn
  · have hall : samples.take limit' =
        samples.take limit ++ (samples.take limit').drop limit := by
      have hfront : (samples.take limit').take limit = samples.take limit := by
        rw [List.take_take, Nat.min_eq_left h']
      rw [← hfront, List.take_append_drop]
    refine goOn_of_append settings (samples.take limit) ((samples.take limit').drop limit)
      (fun merge model hmodel => hmodel.canReturn) fun merge model hmodel => ?_
    rw [← hall]
    exact hmodel.canReturn

end Analyses

/-- Three of the samples that disagree, and the two behind them, in which the integer of the first
    three meets a truth value. -/
theorem FieldModel.more_samples_go_on_conflictingSamples :
    let given := fun settings samples =>
      FieldModel.IsGiven settings (widen : MergeStrategy (Except TypeConflict)) (.arr samples)
    let limited := InferenceSettings.standard.limitedTo
    (∃ front back, given .standard (conflictingSamples.take 3) front ∧
      given .standard (conflictingSamples.take 3 ++ conflictingSamples.drop 3) back ∧
      (∃ f, front.get? "n" = some f ∧ f.type = .scalar .int) ∧
      (∃ g, back.get? "n" = some g ∧ g.type = .mixed) ∧ front.GoesOn back 2 MayWidenTo) ∧
    ∃ short long, given (limited 3 (by decide)) conflictingSamples short ∧
      given (limited 5 (by decide)) conflictingSamples long ∧ short.GoesOn long 2 MayWidenTo := by
  intro given limited
  have hexists : ∀ settings samples, settings.sampleLimit ≤ maxSampleLimit →
      ∃ model, given settings samples model := by
    intro settings samples hlimit
    obtain ⟨model, hmodel⟩ := FieldModel.ofSamples_widen (ε := TypeConflict) settings
      (samples.take settings.sampleLimit)
    refine ⟨model, FieldModel.isGiven_iff.mpr ?_⟩
    rw [FieldModel.ofJson_eq_ofSamples _ (Or.inl rfl) hlimit, hmodel]
  obtain ⟨hmore, hgreater⟩ :=
    FieldModel.more_samples_go_on (m := Except TypeConflict) .standard
  refine ⟨?_, ?_⟩
  · obtain ⟨front, hfront⟩ := hexists .standard (conflictingSamples.take 3) (by decide)
    obtain ⟨back, hback⟩ :=
      hexists .standard (conflictingSamples.take 3 ++ conflictingSamples.drop 3) (by decide)
    have hD := FieldModel.describes_of_canReturn (fun _ t u => t.join u) hfront.canReturn
    have hD' := FieldModel.describes_of_canReturn (fun _ t u => t.join u) hback.canReturn
    obtain ⟨f, hf, hint⟩ := FieldModel.get?_widen hD (show typesOf _ "n" ≠ [] by decide)
    obtain ⟨g, hg, hmixed⟩ := FieldModel.get?_widen hD' (show typesOf _ "n" ≠ [] by decide)
    exact ⟨front, back, hfront, hback, ⟨f, hf, hint⟩, ⟨g, hg, hmixed⟩,
      (hmore _ _ (by decide)).widen _ _ hfront hback⟩
  · obtain ⟨short, hshort⟩ := hexists (limited 3 (by decide)) conflictingSamples (by decide)
    obtain ⟨long, hlong⟩ := hexists (limited 5 (by decide)) conflictingSamples (by decide)
    exact ⟨short, long, hshort, hlong,
      (hgreater _ 3 5 (by decide) (by decide)).widen _ _ hshort hlong⟩

end SampleSchema
