import Mathlib.Data.List.Induction
import SampleSchema.Proofs.Scan.Observations

/-!
# What a scan does, step by step

`Scan.step_eq` says once what one observation does to a scan, for a strategy with any effects: it
makes at most one call, and then holds one type. So a run is a loop over the observations
(`Scan.run_eq`), and what a scan knows is what its observations say (`Scan.Follows`):

* `Scan.follows_of_ok`: after a run without an error every tally is its field's own reading;
* `Scan.exists_of_error`: a run with an error is one without up to some observation;
* `Scan.call?_of_follows`: the next call is the one the observation is to make;
* `Scan.ofObservations_recorded`: the calls of a run, with or without an error.
-/

namespace SampleSchema

namespace Scan

/-! ## 1. One observation -/

section Step

variable {m : Type → Type} [Monad m]

/-- A scan after one more observation. -/
def step (settings : InferenceSettings) (merge : MergeStrategy m) (scan : Scan)
    (o : Observation) : m Scan :=
  scan.record settings merge o.1 o.2

/-- A scan after observations. -/
def ofObservations (settings : InferenceSettings) (merge : MergeStrategy m)
    (obs : List Observation) : m Scan :=
  obs.foldlM (step settings merge) {}

/-- The call that a scan makes for an observation: one if it knows the field. -/
def call? (scan : Scan) (o : Observation) : Option MergeCall :=
  (Entries.get? scan.tallies o.1).map fun t => ⟨o.1, t.type, .ofJson o.2⟩

/-- A scan after an observation whose field holds the given type from then on. -/
def holding (settings : InferenceSettings) (scan : Scan) (o : Observation) (type : FieldType) :
    Scan :=
  let known := Entries.get? scan.tallies o.1
  let samples := (known.map (·.samples)).getD []
  { scan with
    tallies := Entries.put scan.tallies o.1
      ⟨type, (known.map (·.count)).getD 0 + 1,
        keepSample settings.sampleValueLimit samples o.2⟩ }

variable [LawfulMonad m] (settings : InferenceSettings) (merge : MergeStrategy m)

/-- **What one observation does.** -/
theorem step_eq (scan : Scan) (o : Observation) :
    step settings merge scan o =
      scan.holding settings o <$>
        match scan.call? o with
        | none => pure (.ofJson o.2)
        | some c => c.answer merge := by
  unfold step record call? holding
  cases h : Entries.get? scan.tallies o.1 with
  | none => simp
  | some t => simp [MergeCall.answer]

/-- A number of documents says nothing to an observation, and an observation leaves it alone. -/
theorem step_withExamined (scan : Scan) (o : Observation) (n : Nat) :
    step settings merge { scan with examined := n } o =
      (fun s : Scan => { s with examined := n }) <$> step settings merge scan o := by
  rw [step_eq, step_eq, Functor.map_map]
  rfl

theorem foldlM_step_withExamined (obs : List Observation) (scan : Scan) (n : Nat) :
    obs.foldlM (step settings merge) { scan with examined := n } =
      (fun s : Scan => { s with examined := n }) <$> obs.foldlM (step settings merge) scan := by
  induction obs generalizing scan with
  | nil => simp
  | cons o rest ih =>
    rw [List.foldlM_cons, List.foldlM_cons, step_withExamined]
    simp only [bind_map_left, map_bind, ih]

/-! ## 2. A run as a loop over observations -/

/-- The members of one document: those that are observations, one after the other. -/
theorem foldlM_member (ms : List (String × Json)) (scan : Scan) :
    ms.foldlM (member settings merge) scan =
      (ms.filter fun e => !settings.reservedKeys.contains e.1).foldlM (step settings merge)
        scan := by
  rw [List.foldlM_filter]
  congr 1
  funext s e
  unfold member step
  cases settings.reservedKeys.contains e.1 <;> rfl

omit [LawfulMonad m] in
/-- One sample that is no document. -/
theorem sample_of_not_isObject {v : Json} (hv : v.isObject = false) (scan : Scan) :
    sample settings merge scan v = pure scan := by
  cases v <;> first | rfl | cases hv

theorem foldlM_sample (samples : List Json) (scan : Scan) :
    samples.foldlM (sample settings merge) scan =
      (fun s : Scan => { s with examined := scan.examined + (documents samples).length }) <$>
        (observations settings samples).foldlM (step settings merge) scan := by
  induction samples generalizing scan with
  | nil =>
    show pure scan = (fun s : Scan => { s with examined := scan.examined + 0 }) <$> pure scan
    rw [map_pure]
    rfl
  | cons v rest ih =>
    cases hv : v.isObject with
    | false =>
      rw [List.foldlM_cons, sample_of_not_isObject settings merge hv, pure_bind, ih]
      unfold observations
      rw [documents_of_not_isObject hv]
    | true =>
      obtain ⟨ms, rfl⟩ : ∃ ms, v = .obj ms := by
        cases v <;> first | exact ⟨_, rfl⟩ | cases hv
      -- the document counts first; its observations do not see the count
      have hdoc : sample settings merge scan (.obj ms) =
          (fun s : Scan => { s with examined := scan.examined + 1 }) <$>
            (ms.filter fun e => !settings.reservedKeys.contains e.1).foldlM
              (step settings merge) scan := by
        show ms.foldlM (member settings merge) { scan with examined := scan.examined + 1 } = _
        rw [foldlM_member, foldlM_step_withExamined]
      have hobs : observations settings (.obj ms :: rest) =
          (ms.filter fun e => !settings.reservedKeys.contains e.1) ++ observations settings rest :=
        rfl
      rw [List.foldlM_cons, hdoc, hobs, List.foldlM_append, bind_map_left, map_bind]
      refine bind_congr fun s => ?_
      rw [ih, foldlM_step_withExamined, Functor.map_map, documents_obj, List.length_cons]
      congr 1
      funext s'
      show ({ s' with examined := _ } : Scan) = { s' with examined := _ }
      rw [Nat.add_assoc, Nat.add_comm 1]

/-- **A run is a loop over the observations**, and the documents are counted. -/
theorem run_eq (samples : List Json) :
    run settings merge samples =
      (fun s : Scan => { s with examined := (documents samples).length }) <$>
        ofObservations settings merge (observations settings samples) := by
  unfold run ofObservations
  rw [foldlM_sample]
  simp

theorem ofObservations_append_singleton (obs : List Observation) (o : Observation) :
    ofObservations settings merge (obs ++ [o]) =
      ofObservations settings merge obs >>= fun scan => step settings merge scan o := by
  unfold ofObservations
  rw [List.foldlM_append]
  simp

end Step

/-! ## 3. What a scan knows -/

/-- **A scan knows of every field what its observations say.** -/
structure Follows {ε : Type} (settings : InferenceSettings) (merge : MergeStrategy (Except ε))
    (obs : List Observation) (scan : Scan) : Prop where
  keys : Entries.keys scan.tallies = fieldKeys obs
  type : ∀ key t, Entries.get? scan.tallies key = some t →
    heldType merge key (typesOf obs key) = .ok t.type
  count : ∀ key t, Entries.get? scan.tallies key = some t → t.count = (valuesOf obs key).length
  samples : ∀ key t, Entries.get? scan.tallies key = some t →
    t.samples = (valuesOf obs key).take settings.sampleValueLimit

section Follows

variable {ε : Type} {settings : InferenceSettings} {merge : MergeStrategy (Except ε)}
  {obs : List Observation} {scan : Scan}

theorem keepSample_take (limit : Nat) (vs : List Json) (v : Json) :
    keepSample limit (vs.take limit) v = (vs ++ [v]).take limit := by
  unfold keepSample
  rw [List.length_take, List.take_append]
  by_cases h : vs.length < limit
  · have hmin : min limit vs.length < limit := by omega
    have hpos : [v].length ≤ limit - vs.length := by
      rw [List.length_singleton]
      omega
    rw [if_pos hmin, List.take_of_length_le hpos]
  · have hmin : ¬ min limit vs.length < limit := by omega
    have hzero : limit - vs.length = 0 := by omega
    rw [if_neg hmin, hzero, List.take_zero, List.append_nil]

theorem follows_nil : Follows settings merge [] {} where
  keys := rfl
  type _ _ h := by cases h
  count _ _ h := by cases h
  samples _ _ h := by cases h

/-- A scan knows a field exactly if it was met. -/
theorem Follows.get?_eq_none_iff (hF : Follows settings merge obs scan) (key : String) :
    Entries.get? scan.tallies key = none ↔ key ∉ fieldKeys obs := by
  rw [Entries.get?_eq_none_iff, hF.keys]

theorem Follows.met (hF : Follows settings merge obs scan) {key : String} {t : Tally}
    (h : Entries.get? scan.tallies key = some t) : key ∈ fieldKeys obs :=
  hF.keys ▸ Entries.mem_keys_of_get? h

/-- **The call of a scan is the one that the observation is to make.** -/
theorem call?_of_follows (hF : Follows settings merge obs scan) (o : Observation) :
    scan.call? o = callAt? merge obs o := by
  unfold call? callAt?
  cases h : Entries.get? scan.tallies o.1 with
  | none =>
    rw [if_neg ((hF.get?_eq_none_iff o.1).mp h)]
    rfl
  | some t =>
    rw [if_pos (hF.met h), hF.type o.1 t h]
    rfl

/-- The tally of the field that was observed: one value more, and the type that it holds now. -/
theorem get?_holding_self (hF : Follows settings merge obs scan) (o : Observation)
    (type : FieldType) :
    Entries.get? (scan.holding settings o type).tallies o.1 =
      some ⟨type, (valuesOf (obs ++ [o]) o.1).length,
        (valuesOf (obs ++ [o]) o.1).take settings.sampleValueLimit⟩ := by
  unfold holding
  rw [Entries.get?_put_self, valuesOf_append, valuesOf_singleton_self]
  cases h : Entries.get? scan.tallies o.1 with
  | none =>
    rw [valuesOf_eq_nil_iff.mpr ((hF.get?_eq_none_iff o.1).mp h), ← keepSample_take, List.take_nil]
    rfl
  | some known =>
    rw [← keepSample_take, ← hF.samples o.1 known h, List.length_append, ← hF.count o.1 known h]
    rfl

/-- **What a scan knows after one more observation**: of its field the new type, of every other
    field what it knew before. -/
theorem follows_holding (hF : Follows settings merge obs scan) (o : Observation) {t : FieldType}
    (ht : heldType merge o.1 (typesOf (obs ++ [o]) o.1) = .ok t) :
    Follows settings merge (obs ++ [o]) (scan.holding settings o t) := by
  have hall : ∀ key t', Entries.get? (scan.holding settings o t).tallies key = some t' →
      heldType merge key (typesOf (obs ++ [o]) key) = .ok t'.type ∧
        t'.count = (valuesOf (obs ++ [o]) key).length ∧
        t'.samples = (valuesOf (obs ++ [o]) key).take settings.sampleValueLimit := by
    intro key t' ht'
    by_cases hkey : key = o.1
    · subst hkey
      rw [get?_holding_self hF] at ht'
      cases ht'
      exact ⟨ht, rfl, rfl⟩
    · have hvalues : valuesOf (obs ++ [o]) key = valuesOf obs key := by
        rw [valuesOf_append, valuesOf_singleton_of_ne hkey, List.append_nil]
      have hbefore : Entries.get? scan.tallies key = some t' :=
        (Entries.get?_put_of_ne _ _ hkey).symm.trans ht'
      unfold typesOf
      rw [hvalues]
      exact ⟨hF.type key t' hbefore, hF.count key t' hbefore, hF.samples key t' hbefore⟩
  refine ⟨?_, fun key t' h => (hall key t' h).1, fun key t' h => (hall key t' h).2.1,
    fun key t' h => (hall key t' h).2.2⟩
  show Entries.keys (Entries.put _ _ _) = _
  rw [Entries.keys_put, hF.keys, fieldKeys_append_singleton]

/-- The type that a field holds after one more of its observations: the first type, or the answer
    to the call. -/
theorem heldType_of_callAt? (hF : Follows settings merge obs scan) (o : Observation) :
    heldType merge o.1 (typesOf (obs ++ [o]) o.1) =
      match callAt? merge obs o with
      | none => .ok (.ofJson o.2)
      | some c => c.answer merge := by
  rw [typesOf_append, typesOf_singleton_self, ← call?_of_follows hF]
  unfold call?
  cases h : Entries.get? scan.tallies o.1 with
  | none =>
    rw [typesOf_eq_nil_iff.mpr ((hF.get?_eq_none_iff o.1).mp h)]
    rfl
  | some t =>
    have hne : typesOf obs o.1 ≠ [] := fun hnil =>
      typesOf_eq_nil_iff.mp hnil (hF.met h)
    rw [heldType_append_singleton merge o.1 hne, hF.type o.1 t h]
    rfl

/-- **One step of a scan that knows what its observations say**: an error if the call is answered by
    one, else a scan that knows one observation more. -/
theorem step_of_follows (hF : Follows settings merge obs scan) (o : Observation) :
    (∃ t, heldType merge o.1 (typesOf (obs ++ [o]) o.1) = .ok t ∧
      step settings merge scan o = .ok (scan.holding settings o t) ∧
      Follows settings merge (obs ++ [o]) (scan.holding settings o t)) ∨
    (∃ e, heldType merge o.1 (typesOf (obs ++ [o]) o.1) = .error e ∧
      step settings merge scan o = .error e) := by
  have hstep : step settings merge scan o =
      scan.holding settings o <$> heldType merge o.1 (typesOf (obs ++ [o]) o.1) := by
    rw [step_eq, heldType_of_callAt? hF, call?_of_follows hF]
    rfl
  cases ht : heldType merge o.1 (typesOf (obs ++ [o]) o.1) with
  | ok t => exact Or.inl ⟨t, rfl, by rw [hstep, ht]; rfl, follows_holding hF o ht⟩
  | error e => exact Or.inr ⟨e, rfl, by rw [hstep, ht]; rfl⟩

/-! ## 4. A whole run -/

/-- **Without an error, a scan knows what its observations say.** -/
theorem follows_of_ok (h : ofObservations settings merge obs = .ok scan) :
    Follows settings merge obs scan := by
  induction obs using List.reverseRecOn generalizing scan with
  | nil =>
    cases h
    exact follows_nil
  | append_singleton obs o ih =>
    rw [ofObservations_append_singleton] at h
    cases hs : ofObservations settings merge obs with
    | error e => rw [hs] at h; cases h
    | ok before =>
      rw [hs] at h
      have h' : step settings merge before o = .ok scan := h
      rcases step_of_follows (ih hs) o with ⟨t, _, hstep, hF⟩ | ⟨e, _, hstep⟩
      · rw [hstep] at h'
        cases h'
        exact hF
      · rw [hstep] at h'
        cases h'

/-- **Where a run ends in an error**: at an observation whose field cannot hold one more type, while
    the observations before it made a scan. -/
theorem exists_of_error {e : ε} (h : ofObservations settings merge obs = .error e) :
    ∃ before o after scan, obs = before ++ o :: after ∧
      ofObservations settings merge before = .ok scan ∧
      heldType merge o.1 (typesOf (before ++ [o]) o.1) = .error e := by
  induction obs using List.reverseRecOn with
  | nil => cases h
  | append_singleton obs o ih =>
    rw [ofObservations_append_singleton] at h
    cases hs : ofObservations settings merge obs with
    | error e' =>
      rw [hs] at h
      cases h
      obtain ⟨before, o', after, scan, rfl, hscan, herror⟩ := ih hs
      exact ⟨before, o', after ++ [o], scan, by simp, hscan, herror⟩
    | ok scan =>
      rw [hs] at h
      have h' : step settings merge scan o = .error e := h
      rcases step_of_follows (follows_of_ok hs) o with ⟨t, _, hstep, _⟩ | ⟨e', herror, hstep⟩
      · rw [hstep] at h'
        cases h'
      · rw [hstep] at h'
        cases h'
        exact ⟨obs, o, [], scan, rfl, hs, herror⟩

/-- **A run ends in an error exactly if one of its calls is answered by one**, and in that error. -/
theorem ofObservations_answers (settings : InferenceSettings) (merge : MergeStrategy (Except ε))
    (obs : List Observation) :
    (∃ scan ts, ofObservations settings merge obs = .ok scan ∧
      answers merge (callsOf merge obs) = .ok ts) ∨
    (∃ e, ofObservations settings merge obs = .error e ∧
      answers merge (callsOf merge obs) = .error e) := by
  induction obs using List.reverseRecOn with
  | nil => exact Or.inl ⟨{}, [], rfl, rfl⟩
  | append_singleton obs o ih =>
    have happend : answers merge (callsOf merge (obs ++ [o])) =
        answers merge (callsOf merge obs) >>= fun ts =>
          (answers merge (callAt? merge obs o).toList >>= fun us => pure (ts ++ us)) := by
      unfold answers
      rw [callsOf_append_singleton, List.mapM_append]
    rw [ofObservations_append_singleton, happend]
    rcases ih with ⟨scan, ts, hs, hts⟩ | ⟨e, hs, hts⟩
    · have hF := follows_of_ok hs
      rw [hs, hts]
      cases hc : callAt? merge obs o with
      | none =>
        have hstep : step settings merge scan o = .ok (scan.holding settings o (.ofJson o.2)) := by
          rw [step_eq, call?_of_follows hF, hc]
          rfl
        exact Or.inl ⟨_, ts ++ [], hstep, rfl⟩
      | some c =>
        have hone : answers merge (some c).toList = (fun t => [t]) <$> c.answer merge := by
          simp [answers]
        have hstep : step settings merge scan o = scan.holding settings o <$> c.answer merge := by
          rw [step_eq, call?_of_follows hF, hc]
        rw [hone]
        cases ha : c.answer merge with
        | ok t =>
          rw [ha] at hstep
          exact Or.inl ⟨_, ts ++ [t], hstep, rfl⟩
        | error e =>
          rw [ha] at hstep
          exact Or.inr ⟨e, hstep, rfl⟩
    · rw [hs, hts]
      exact Or.inr ⟨e, rfl, rfl⟩

/-- **The calls of a run**: a strategy that keeps a list of its calls ends as the strategy itself
    does, and the list holds the calls that the observations make, up to the first error. -/
theorem ofObservations_recorded (settings : InferenceSettings)
    (merge : MergeStrategy (Except ε)) (obs : List Observation) :
    (ofObservations settings (recorded merge) obs).run.run [] =
      (ofObservations settings merge obs, madeCalls merge (callsOf merge obs)) := by
  induction obs using List.reverseRecOn with
  | nil => rfl
  | append_singleton obs o ih =>
    rw [ofObservations_append_singleton, ofObservations_append_singleton,
      callsOf_append_singleton]
    rw [ExceptT.run_bind, StateT.run_bind, ih]
    rcases ofObservations_answers settings merge obs with ⟨scan, ts, hs, hts⟩ | ⟨e, hs, hts⟩
    · have hcall := call?_of_follows (follows_of_ok hs) o
      rw [hs, madeCalls_append_of_ok hts, madeCalls_of_ok hts]
      show (step settings (recorded merge) scan o).run.run _ = (step settings merge scan o, _)
      rw [step_eq, step_eq, hcall]
      cases hc : callAt? merge obs o with
      | none =>
        show (_, _) = (_, _ ++ [])
        rw [List.append_nil]
        rfl
      | some c =>
        have hlog : (c.answer (recorded merge)).run.run (callsOf merge obs) =
            (c.answer merge, callsOf merge obs ++ [c]) := rfl
        have hmade : madeCalls merge (some c).toList = [c] := by
          cases ha : c.answer merge <;> simp [madeCalls, ha]
        rw [hmade, ExceptT.run_map, StateT.run_map, hlog]
        rfl
    · rw [hs, madeCalls_append_of_error hts]
      rfl

end Follows

end Scan

end SampleSchema
