import SampleSchema.Proofs.Scan.Ledgers

/-!
# The dictionaries of a scan stay in step

The types, counts and values of the fields are written at three places of a step, and the number of
documents at a fourth, once for each document. Between two steps they agree (`Ledgers.InStep`): the
dictionaries hold the same keys in the same order, none of them reserved, and a field was met at
least once, in no more documents than there were, with a value kept for each up to the limit.

That a field was met in no more documents than there were is no invariant by itself. A document is
counted when it begins, and a field of it when its member comes; so what is kept is that the keys
that are STILL TO COME in a document have a count below the number of documents
(`Scan.Balanced.pending`), and this needs that a document holds each key once (`EachKeyOnce`).

* `Scan.Moves` and `Bookkeeping.moves_of_take`: what one step can do;
* `Scan.Moves.balanced`: each step keeps the balance;
* `Bookkeeping.dictionaries_in_step`: the main statement, on every beginning of a pass.
-/

namespace SampleSchema

open MonadAttach LawfulMonadAttach

/-! ## 1. A pass as a list of steps -/

/-- One step of a pass: a document begins, or one of its members is looked at. -/
inductive PassStep where
  | document
  | member (key : String) (v : Json)

/-- The steps of a pass over documents, in their order. -/
def passSteps (docs : List (List (String × Json))) : List PassStep :=
  docs.flatMap fun ms => .document :: ms.map fun e => .member e.1 e.2

namespace Bookkeeping

variable {ε : Type} {m : Type → Type} [Monad m] (settings : InferenceSettings)
  (merge : MergeStrategy (ExceptT ε m))

/-- The work of one step. -/
def take : PassStep → Bookkeeping ε m Unit
  | .document => beginDocument
  | .member key v => member settings merge (key, v)

/-- **A pass is its steps, one after the other.** -/
theorem pass_eq_forM [LawfulMonad m] (samples : List Json) :
    pass settings merge samples =
      (passSteps (documents samples)).forM (take settings merge) := by
  unfold pass
  induction samples with
  | nil => rfl
  | cons v rest ih =>
    show (sample settings merge v >>= fun _ => rest.forM (sample settings merge)) = _
    rw [ih]
    cases hv : v.isObject with
    | false =>
      have hnone : sample settings merge v = pure () := by
        cases v <;> first | rfl | cases hv
      rw [hnone, pure_bind, documents_of_not_isObject hv]
    | true =>
      obtain ⟨ms, rfl⟩ : ∃ ms, v = .obj ms := by
        cases v <;> first | exact ⟨_, rfl⟩ | cases hv
      let members := ms.map fun e => PassStep.member e.1 e.2
      have hsteps : passSteps (documents (.obj ms :: rest)) =
          .document :: members ++ passSteps (documents rest) := rfl
      have hmembers : forM members (take settings merge) = ms.forM (member settings merge) :=
        List.forM_map
      show _ = forM (passSteps (documents (.obj ms :: rest))) (take settings merge)
      rw [hsteps, List.forM_append, List.forM_cons, hmembers]
      rfl

end Bookkeeping

/-! ## 2. Keys that are still to come -/

/-- The keys that are still to come in the document under way. -/
def pendingKeys : List PassStep → List String
  | .member key _ :: rest => key :: pendingKeys rest
  | .document :: _ => []
  | [] => []

/-- **Each document holds each key once.** -/
def EachKeyOnce : List PassStep → Prop
  | .member key _ :: rest => key ∉ pendingKeys rest ∧ EachKeyOnce rest
  | .document :: rest => EachKeyOnce rest
  | [] => True

theorem pendingKeys_front (done rest : List PassStep) :
    pendingKeys done <+: pendingKeys (done ++ rest) := by
  induction done with
  | nil => exact List.nil_prefix
  | cons step done ih =>
    cases step with
    | document => exact List.nil_prefix
    | member key v => exact (List.prefix_cons_inj key).mpr ih

theorem EachKeyOnce.of_append {done rest : List PassStep} (h : EachKeyOnce (done ++ rest)) :
    EachKeyOnce done := by
  induction done with
  | nil => trivial
  | cons step done ih =>
    cases step with
    | document => exact ih h
    | member key v =>
      obtain ⟨hkey, hrest⟩ := h
      exact ⟨fun hmem => hkey ((pendingKeys_front done rest).subset hmem), ih hrest⟩

theorem pendingKeys_members (ms : List (String × Json)) (rest : List PassStep) :
    pendingKeys ((ms.map fun e => .member e.1 e.2) ++ rest) =
      Entries.keys ms ++ pendingKeys rest := by
  induction ms with
  | nil => rfl
  | cons e ms ih => exact congrArg (e.1 :: ·) ih

theorem eachKeyOnce_members {ms : List (String × Json)} (hms : (Entries.keys ms).Nodup)
    {rest : List PassStep} (hrest : EachKeyOnce rest) (hnone : pendingKeys rest = []) :
    EachKeyOnce ((ms.map fun e => .member e.1 e.2) ++ rest) := by
  induction ms with
  | nil => exact hrest
  | cons e ms ih =>
    obtain ⟨he, hms⟩ := List.nodup_cons.mp hms
    refine ⟨?_, ih hms⟩
    show e.1 ∉ pendingKeys ((ms.map fun e => .member e.1 e.2) ++ rest)
    rw [pendingKeys_members, hnone, List.append_nil]
    exact he

section PassSteps

variable {docs : List (List (String × Json))}

/-- No key is still to come before a document begins. -/
theorem pendingKeys_passSteps : pendingKeys (passSteps docs) = [] := by
  cases docs <;> rfl

theorem eachKeyOnce_passSteps (h : ∀ ms ∈ docs, (Entries.keys ms).Nodup) :
    EachKeyOnce (passSteps docs) := by
  induction docs with
  | nil => trivial
  | cons ms docs ih =>
    exact eachKeyOnce_members (h ms List.mem_cons_self)
      (ih fun other hmem => h other (List.mem_cons_of_mem _ hmem)) pendingKeys_passSteps

end PassSteps

/-! ## 3. What one step can do -/

/-- **What a step can make of a scan.** Which type a field holds is left open: it is the strategy's
    affair. -/
inductive Scan.Moves (settings : InferenceSettings) (scan : Scan) : PassStep → Scan → Prop where
  | document : Moves settings scan .document { scan with examined := scan.examined + 1 }
  | reserved {key : String} (h : key ∈ settings.reservedKeys) (v : Json) :
      Moves settings scan (.member key v) scan
  | observed {key : String} (h : key ∉ settings.reservedKeys) (v : Json) (type : FieldType) :
      Moves settings scan (.member key v) (scan.holding settings (key, v) type)

section Moves

variable {ε : Type} {m : Type → Type} [Monad m] [LawfulMonad m] [MonadAttach m]
  [LawfulMonadAttach m] {settings : InferenceSettings} {merge : MergeStrategy (ExceptT ε m)}
  {scan : Scan}

theorem Scan.moves_of_member {after : Scan} {key : String} {v : Json}
    (h : CanReturn (scan.member settings merge (key, v)) after) :
    scan.Moves settings (.member key v) after := by
  unfold member at h
  cases hreserved : settings.reservedKeys.contains key with
  | true =>
    rw [hreserved] at h
    rw [← eq_of_canReturn_pure h]
    exact .reserved (by simpa using hreserved) v
  | false =>
    rw [hreserved] at h
    have hstep : CanReturn (step settings merge scan (key, v)) after := h
    rw [step_eq] at hstep
    obtain ⟨type, _, rfl⟩ := canReturn_map_imp' hstep
    exact .observed (by simpa using hreserved) v type

/-- **What a step can make of the ledgers of a scan**: those of the scan that it moves to. Or the
    strategy halts it, and then it has written nothing. -/
theorem Bookkeeping.moves_of_take {step : PassStep} {outcome : Except (Halted ε) Unit}
    {l : Ledgers} (h : CanReturn ((take settings merge step).on scan.ledgers) (outcome, l)) :
    (∃ after, scan.Moves settings step after ∧ outcome = .ok () ∧ l = after.ledgers) ∨
      (∃ e, outcome = .error (.raised e) ∧ l = scan.ledgers) := by
  cases step with
  | document =>
    change CanReturn (beginDocument.on scan.ledgers) _ at h
    unfold beginDocument at h
    rw [on_modify] at h
    cases eq_of_canReturn_pure h
    exact .inl ⟨_, .document, rfl, rfl⟩
  | member key v =>
    change CanReturn ((member settings merge (key, v)).on scan.ledgers) _ at h
    rw [on_member] at h
    obtain ⟨answer, hanswer, hl⟩ := canReturn_map_imp' h
    cases answer with
    | ok after =>
      cases hl
      have hafter : CanReturn (scan.member settings merge (key, v)) after := hanswer
      exact .inl ⟨after, Scan.moves_of_member hafter, rfl, rfl⟩
    | error e =>
      cases hl
      exact .inr ⟨e, rfl, rfl⟩

end Moves

/-! ## 4. Scans in balance -/

/-- In how many documents a field was met by now. -/
def Scan.countOf (scan : Scan) (key : String) : Nat :=
  ((Entries.get? scan.tallies key).map (·.count)).getD 0

/-- **A scan in balance**, while the given keys are still to come in the document under way. -/
structure Scan.Balanced (settings : InferenceSettings) (pending : List String) (scan : Scan) :
    Prop where
  distinct : (Entries.keys scan.tallies).Nodup
  unreserved : ∀ key ∈ Entries.keys scan.tallies, key ∉ settings.reservedKeys
  tally : ∀ key t, Entries.get? scan.tallies key = some t → 1 ≤ t.count ∧
    t.count ≤ scan.examined ∧ t.samples.length = min t.count settings.sampleValueLimit
  /-- The document under way counts already, but not yet for a key that is still to come. -/
  pending : ∀ key ∈ pending, scan.countOf key < scan.examined

namespace Scan

variable {settings : InferenceSettings} {pending : List String} {scan after : Scan}

theorem balanced_empty : Balanced settings [] {} where
  distinct := List.nodup_nil
  unreserved _ h := by cases h
  tally _ _ h := by cases h
  pending _ h := by cases h

theorem length_keepSample {limit n : Nat} {vs : List Json} (h : vs.length = min n limit)
    (v : Json) : (keepSample limit vs v).length = min (n + 1) limit := by
  unfold keepSample
  split
  · rw [List.length_append, List.length_singleton]
    omega
  · omega

section Balanced

variable (hB : Balanced settings pending scan)
include hB

theorem Balanced.countOf_le (key : String) : scan.countOf key ≤ scan.examined := by
  unfold countOf
  cases h : Entries.get? scan.tallies key with
  | none => exact Nat.zero_le _
  | some t => exact (hB.tally key t h).2.1

theorem Balanced.length_samples (key : String) :
    (((Entries.get? scan.tallies key).map (·.samples)).getD []).length =
      min (scan.countOf key) settings.sampleValueLimit := by
  unfold countOf
  cases h : Entries.get? scan.tallies key with
  | none => exact (Nat.zero_min _).symm
  | some t => exact (hB.tally key t h).2.2

/-- A document that begins may hold any keys: none of them has been met in it. -/
theorem Balanced.document (pending' : List String) :
    Balanced settings pending' { scan with examined := scan.examined + 1 } where
  distinct := hB.distinct
  unreserved := hB.unreserved
  tally key t h := by
    obtain ⟨hpos, hmost, hlength⟩ := hB.tally key t h
    exact ⟨hpos, Nat.le_succ_of_le hmost, hlength⟩
  pending key _ := Nat.lt_succ_of_le (hB.countOf_le key)

end Balanced

/-- **One more value of a field keeps the balance**: its key was still to come, and is no longer. -/
theorem Balanced.holding {key : String} (hB : Balanced settings (key :: pending) scan)
    (hkey : key ∉ settings.reservedKeys) (hnew : key ∉ pending) (v : Json) (type : FieldType) :
    Balanced settings pending (scan.holding settings (key, v) type) where
  distinct := Entries.nodup_keys_put hB.distinct key _
  unreserved other h := by
    change other ∈ Entries.keys (Entries.put _ _ _) at h
    rw [Entries.keys_put] at h
    split at h
    · exact hB.unreserved other h
    · rcases List.mem_append.mp h with h | h
      · exact hB.unreserved other h
      · rw [List.mem_singleton.mp h]
        exact hkey
  tally other t h := by
    change Entries.get? (Entries.put _ _ _) _ = _ at h
    by_cases hother : other = key
    · subst hother
      rw [Entries.get?_put_self] at h
      cases h
      exact ⟨Nat.le_add_left _ _, hB.pending other List.mem_cons_self,
        length_keepSample (hB.length_samples other) v⟩
    · rw [Entries.get?_put_of_ne _ _ hother] at h
      exact hB.tally other t h
  pending other h := by
    have hother : other ≠ key := fun heq => hnew (heq ▸ h)
    have hsame : (scan.holding settings (key, v) type).countOf other = scan.countOf other :=
      congrArg (fun known => (known.map Tally.count).getD 0) (Entries.get?_put_of_ne _ _ hother)
    rw [hsame]
    exact hB.pending other (List.mem_cons_of_mem _ h)

/-- **Every step keeps a scan in balance.** -/
theorem Moves.balanced {step : PassStep} {rest : List PassStep}
    (hmoves : scan.Moves settings step after) (honce : EachKeyOnce (step :: rest))
    (hB : Balanced settings (pendingKeys (step :: rest)) scan) :
    Balanced settings (pendingKeys rest) after := by
  cases hmoves with
  | document => exact hB.document _
  | reserved _ v =>
    exact ⟨hB.distinct, hB.unreserved, hB.tally, fun key h =>
      hB.pending key (List.mem_cons_of_mem _ h)⟩
  | observed h v type => exact hB.holding h honce.1 v type

end Scan

/-- **Any number of steps leaves the ledgers of a scan in balance**, and nothing but the strategy
    halts them. -/
theorem Bookkeeping.balanced_of_forM {ε : Type} {m : Type → Type} [Monad m] [LawfulMonad m]
    [MonadAttach m] [LawfulMonadAttach m] {settings : InferenceSettings}
    {merge : MergeStrategy (ExceptT ε m)} {done : List PassStep} {scan : Scan}
    {outcome : Except (Halted ε) Unit} {l : Ledgers} (honce : EachKeyOnce done)
    (hB : scan.Balanced settings (pendingKeys done))
    (h : CanReturn ((done.forM (take settings merge)).on scan.ledgers) (outcome, l)) :
    (∃ (after : Scan) (pending : List String),
      after.Balanced settings pending ∧ l = after.ledgers) ∧
    (outcome = .ok () ∨ ∃ e, outcome = .error (.raised e)) := by
  induction done generalizing scan with
  | nil =>
    have hl : (Except.ok (), scan.ledgers) = (outcome, l) := eq_of_canReturn_pure h
    cases hl
    exact ⟨⟨scan, _, hB, rfl⟩, .inl rfl⟩
  | cons step done ih =>
    change CanReturn ((take settings merge step >>= fun _ =>
      done.forM (take settings merge)).on scan.ledgers) _ at h
    rw [on_bind] at h
    obtain ⟨⟨first, between⟩, hfirst, hrest⟩ := canReturn_bind_imp' h
    rcases moves_of_take hfirst with ⟨after, hmoves, rfl, rfl⟩ | ⟨e, rfl, rfl⟩
    · have honce' : EachKeyOnce done := by
        cases step with
        | document => exact honce
        | member key v => exact honce.2
      exact ih honce' (hmoves.balanced honce hB) hrest
    · have hl : (Except.error (Halted.raised e), scan.ledgers) = (outcome, l) :=
        eq_of_canReturn_pure hrest
      cases hl
      exact ⟨⟨scan, _, hB, rfl⟩, .inr ⟨e, rfl⟩⟩

/-! ## 5. Dictionaries in step -/

/-- **The dictionaries are in step.** -/
structure Ledgers.InStep (settings : InferenceSettings) (l : Ledgers) : Prop where
  counts : Entries.keys l.counts = Entries.keys l.types
  values : Entries.keys l.values = Entries.keys l.types
  distinct : (Entries.keys l.types).Nodup
  unreserved : ∀ key ∈ Entries.keys l.types, key ∉ settings.reservedKeys
  entry : ∀ key ∈ Entries.keys l.types, ∃ n vs,
    Entries.get? l.counts key = some n ∧ Entries.get? l.values key = some vs ∧
    1 ≤ n ∧ n ≤ l.examined ∧ vs.length = min n settings.sampleValueLimit

theorem Scan.Balanced.inStep {settings : InferenceSettings} {pending : List String} {scan : Scan}
    (hB : Balanced settings pending scan) : scan.ledgers.InStep settings where
  counts := by rw [scan.keys_counts_ledgers, scan.keys_types_ledgers]
  values := by rw [scan.keys_values_ledgers, scan.keys_types_ledgers]
  distinct := by
    rw [scan.keys_types_ledgers]
    exact hB.distinct
  unreserved := by
    rw [scan.keys_types_ledgers]
    exact hB.unreserved
  entry key h := by
    rw [scan.keys_types_ledgers] at h
    cases ht : Entries.get? scan.tallies key with
    | none => exact absurd h ((Entries.get?_eq_none_iff _ _).mp ht)
    | some t =>
      exact ⟨t.count, t.samples, get?_counts_ledgers ht, get?_values_ledgers ht, hB.tally key t ht⟩

namespace Bookkeeping

/-- **The dictionaries of a scan stay in step**, for every value, all settings and every strategy,
    with effects and errors of its own. The model that a scan gives, or the error of its strategy,
    is what the work on ledgers ends with; so no key that is looked up is missing, and no share is
    one of no documents. Where no sample is an object there is no field to look up, and the model is
    the empty one. The pass is the row of its steps, and if each document holds each key once, the
    dictionaries are in step after any first steps, also after a step that the strategy halts. -/
theorem dictionaries_in_step {ε : Type} {m : Type → Type} [Monad m] [LawfulMonad m]
    [MonadAttach m] [LawfulMonadAttach m] (settings : InferenceSettings)
    (merge : MergeStrategy (ExceptT ε m)) (v : Json) :
    (FieldModel.ofJson settings merge v).map (fun run => (·.mapError Halted.raised) <$> run.run) =
      (v.examinable settings).map
        (fun samples => (·.1) <$> (fieldModel settings merge samples).on {}) ∧
    ∀ samples, v.examinable settings = .ok samples →
      (documents samples = [] → (fieldModel settings merge samples).on {} = pure (.ok {}, {})) ∧
      pass settings merge samples =
        (passSteps (documents samples)).forM (take settings merge) ∧
      ((∀ ms ∈ documents samples, (Entries.keys ms).Nodup) →
        ∀ done, done <+: passSteps (documents samples) → ∀ outcome l,
          CanReturn ((done.forM (take settings merge)).on {}) (outcome, l) →
          l.InStep settings ∧ (outcome = .ok () ∨ ∃ e, outcome = .error (.raised e))) := by
  refine ⟨?_, fun samples _ => ⟨fun hnone => ?_, pass_eq_forM settings merge samples,
    fun hkeys done hdone outcome l h => ?_⟩⟩
  · unfold FieldModel.ofJson
    cases v.examinable settings with
    | error fault => rfl
    | ok samples => exact congrArg Except.ok (on_fieldModel settings merge samples).symm
  · have hpass : pass settings merge samples = pure () := by
      rw [pass_eq_forM, hnone]
      rfl
    have hempty : (model settings : Bookkeeping ε m FieldModel).on ({} : Scan).ledgers =
        pure (.ok {}, {}) := on_model settings List.nodup_nil (absurd rfl)
    unfold fieldModel
    rw [hpass, pure_bind]
    exact hempty
  · obtain ⟨rest, hrest⟩ := hdone
    have honce : EachKeyOnce done := (hrest ▸ eachKeyOnce_passSteps hkeys).of_append
    have hnone : pendingKeys done = [] := by
      have hpending := pendingKeys_front done rest
      rw [hrest, pendingKeys_passSteps] at hpending
      exact List.prefix_nil.mp hpending
    have hB : ({} : Scan).Balanced settings (pendingKeys done) := hnone ▸ Scan.balanced_empty
    obtain ⟨⟨after, pending, hafter, rfl⟩, houtcome⟩ := balanced_of_forM honce hB h
    exact ⟨hafter.inStep, houtcome⟩

/-- The samples that disagree, under a strategy that keeps a list of its calls and answers the last
    of them by an error: what the steps up to that one leave. Beside them a sample that is no
    object. -/
theorem dictionaries_in_step_conflictingSamples :
    let merge : MergeStrategy (ExceptT TypeConflict (StateM (List MergeCall))) := recorded reject
    let steps := passSteps (documents conflictingSamples)
    let left : Ledgers :=
      { types := [("n", .scalar .int), ("m", .scalar .boolean)]
        counts := [("n", 2), ("m", 2)]
        values := [("n", [.null, .int 1]), ("m", [.null, .bool true])]
        examined := 3 }
    JsonOf.examinable .standard (.arr conflictingSamples) = .ok conflictingSamples ∧
    (∀ ms ∈ documents conflictingSamples, (Entries.keys ms).Nodup) ∧
    steps.take 9 <+: steps ∧
    CanReturn (((steps.take 9).forM (take .standard merge)).on {})
      (.error (.raised ⟨"n", .scalar .int, .scalar .boolean⟩), left) ∧
    left.InStep .standard ∧
    JsonOf.examinable .standard (.arr [.bool true]) = .ok [.bool true] ∧
    documents [.bool true] = [] ∧
    (fieldModel .standard merge [.bool true]).on {} = pure (.ok {}, {}) := by
  have hrun : (((passSteps (documents conflictingSamples)).take 9).forM
      (take .standard (recorded reject))).on {} [] =
      ((.error (.raised ⟨"n", .scalar .int, .scalar .boolean⟩),
        { types := [("n", .scalar .int), ("m", .scalar .boolean)]
          counts := [("n", 2), ("m", 2)]
          values := [("n", [.null, .int 1]), ("m", [.null, .bool true])]
          examined := 3 }),
        [⟨"n", .unknown, .scalar .int⟩, ⟨"m", .unknown, .scalar .boolean⟩,
          ⟨"n", .scalar .int, .scalar .boolean⟩]) := by rfl
  intro merge steps left
  have hsamples : JsonOf.examinable .standard (.arr conflictingSamples) = .ok conflictingSamples := by
    rfl
  have hkeys : ∀ ms ∈ documents conflictingSamples, (Entries.keys ms).Nodup := by decide
  have hdone : steps.take 9 <+: steps := List.take_prefix 9 steps
  have hleft : CanReturn (((steps.take 9).forM (take .standard merge)).on {})
      (.error (.raised ⟨"n", .scalar .int, .scalar .boolean⟩), left) := ⟨[], _, hrun⟩
  have hother : JsonOf.examinable .standard (.arr [.bool true]) = .ok [.bool true] := by rfl
  have hstep := ((dictionaries_in_step .standard merge _).2 _ hsamples).2.2 hkeys _ hdone _ _ hleft
  have hnone := ((dictionaries_in_step .standard merge _).2 _ hother).1 rfl
  exact ⟨hsamples, hkeys, hdone, hleft, hstep.1, hother, rfl, hnone⟩

end Bookkeeping

end SampleSchema
