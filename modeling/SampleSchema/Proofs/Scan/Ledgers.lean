import SampleSchema.Proofs.Scan.Outline

/-!
# A scan with one dictionary for each thing it keeps

A tally holds three things of a field. Here the same scan keeps LEDGERS instead: one dictionary for
the types, one for the counts and one for the values, each written at its own place of a step. A
dictionary may not hold the key that is looked up in it, and a share may be one of no documents;
work on ledgers is then HALTED, as it is when the strategy answers by an error, and the ledgers stay
as they were left (`Bookkeeping`). A strategy may have any other effects besides.

* `Bookkeeping.on_record`: on the dictionaries of a scan's tallies, one more value does what it does
  to the tallies;
* `Bookkeeping.tracks_pass`: so the whole pass leaves the dictionaries of a whole scan;
* `Bookkeeping.on_fieldModel`: and the model that is read off them is the model of the tallies. No
  key is missing, and no share is one of no documents.
-/

namespace SampleSchema

open MonadAttach LawfulMonadAttach

/-! ## 1. Work on ledgers -/

/-- **What a scan knows by now**, in one dictionary for each thing. -/
structure Ledgers where
  types : List (String × FieldType) := []
  counts : List (String × Nat) := []
  values : List (String × List Json) := []
  examined : Nat := 0

namespace Ledgers

variable (l : Ledgers) (key : String)

def setType (type : FieldType) : Ledgers := { l with types := Entries.put l.types key type }

def setCount (count : Nat) : Ledgers := { l with counts := Entries.put l.counts key count }

def setValues (values : List Json) : Ledgers := { l with values := Entries.put l.values key values }

theorem setCount_setCount (n n' : Nat) :
    (l.setCount key n).setCount key n' = l.setCount key n' := by
  unfold setCount
  rw [Entries.put_put]

theorem setValues_setValues (vs vs' : List Json) :
    (l.setValues key vs).setValues key vs' = l.setValues key vs' := by
  unfold setValues
  rw [Entries.put_put]

end Ledgers

/-- Why work on ledgers ends before its end. -/
inductive Halted (ε : Type) where
  /-- A dictionary does not hold the key that is looked up. -/
  | missing (key : String)
  | divisionByZero
  /-- The strategy answers by an error. -/
  | raised (e : ε)

/-- Work on ledgers. Where it is halted, they stay as they were left. -/
abbrev Bookkeeping (ε : Type) (m : Type → Type) := ExceptT (Halted ε) (StateT Ledgers m)

namespace Bookkeeping

section Definitions

variable {ε : Type} {m : Type → Type} [Monad m]

/-- How work on given ledgers ends, and how it leaves them. -/
def on {α : Type} (work : Bookkeeping ε m α) (l : Ledgers) : m (Except (Halted ε) α × Ledgers) :=
  work.run.run l

/-- The value of a key that has to be there. -/
def lookUp {α : Type} (entries : List (String × α)) (key : String) : Bookkeeping ε m α :=
  match Entries.get? entries key with
  | some a => pure a
  | none => throw (.missing key)

/-- The answer of a strategy. -/
def ask (merge : MergeStrategy (ExceptT ε m)) (key : String) (existing observed : FieldType) :
    Bookkeeping ε m FieldType :=
  ExceptT.mk (StateT.lift ((·.mapError .raised) <$> (merge key existing observed).run))

/-- The type of a field after one more value. A field met for the first time is entered everywhere;
    for any other the strategy is asked, before anything is written. -/
def settleType (merge : MergeStrategy (ExceptT ε m)) (key : String) (observed : FieldType) :
    Bookkeeping ε m Unit := do
  if key ∈ Entries.keys (← get).types then
    let existing ← lookUp (← get).types key
    let type ← ask merge key existing observed
    modify (·.setType key type)
  else
    modify (·.setType key observed)
    modify (·.setCount key 0)
    modify (·.setValues key [])

/-- One document more that has the field. -/
def countUp (key : String) : Bookkeeping ε m Unit := do
  let count ← lookUp (← get).counts key
  modify (·.setCount key (count + 1))

/-- One value more that is kept of the field, if there is room for it. -/
def keepValue (limit : Nat) (key : String) (v : Json) : Bookkeeping ε m Unit := do
  if (← lookUp (← get).values key).length < limit then
    let kept ← lookUp (← get).values key
    modify (·.setValues key (kept ++ [v]))

/-- A document begins. -/
def beginDocument : Bookkeeping ε m Unit :=
  modify fun l => { l with examined := l.examined + 1 }

section Pass

variable (settings : InferenceSettings) (merge : MergeStrategy (ExceptT ε m))

/-- One more value of a field. -/
def record (key : String) (v : Json) : Bookkeeping ε m Unit := do
  settleType merge key (.ofJson v)
  countUp key
  keepValue settings.sampleValueLimit key v

/-- One member of a document; a reserved key is passed over. -/
def member (entry : String × Json) : Bookkeeping ε m Unit :=
  if settings.reservedKeys.contains entry.1 then pure ()
  else record settings merge entry.1 entry.2

/-- One sample; what is no object is passed over. -/
def sample : Json → Bookkeeping ε m Unit
  | .obj ms => do
    beginDocument
    ms.forM (member settings merge)
  | _ => pure ()

/-- All samples, one after the other. -/
def pass (samples : List Json) : Bookkeeping ε m Unit := samples.forM (sample settings merge)

end Pass

/-- The share of the documents that have a field, as a double. -/
def share (count examined : Nat) : Bookkeeping ε m Double :=
  if examined = 0 then throw .divisionByZero else pure (.ofQuotient false count examined)

/-- The field of a key. -/
def field (settings : InferenceSettings) (key : String) : Bookkeeping ε m (String × Field) := do
  let type ← lookUp (← get).types key
  let share ← share (← lookUp (← get).counts key) (← get).examined
  let samples ← lookUp (← get).values key
  pure (key, { name := key, type, required := settings.requiredThreshold.lt share, samples })

/-- The model that the ledgers stand for. -/
def model (settings : InferenceSettings) : Bookkeeping ε m FieldModel := do
  let fields ← (Entries.keys (← get).types).mapM (field settings)
  pure { fields, examined := (← get).examined }

/-- **The field model of samples**, by ledgers. -/
def fieldModel (settings : InferenceSettings) (merge : MergeStrategy (ExceptT ε m))
    (samples : List Json) : Bookkeeping ε m FieldModel := do
  pass settings merge samples
  model settings

end Definitions

/-! ## 2. What each action does -/

section Actions

variable {ε : Type} {m : Type → Type} [Monad m] {α β : Type} (l : Ledgers)

@[simp] theorem on_pure (a : α) : (pure a : Bookkeeping ε m α).on l = pure (.ok a, l) := rfl

theorem on_bind (work : Bookkeeping ε m α) (next : α → Bookkeeping ε m β) :
    (work >>= next).on l = work.on l >>= fun r =>
      match r.1 with
      | .ok a => (next a).on r.2
      | .error h => pure (.error h, r.2) := by
  unfold on
  rw [ExceptT.run_bind, StateT.run_bind]
  refine bind_congr fun r => ?_
  cases r.1 <;> rfl

theorem lookUp_eq {entries : List (String × α)} {key : String} {a : α}
    (h : Entries.get? entries key = some a) :
    (lookUp entries key : Bookkeeping ε m α) = pure a := by
  unfold lookUp
  rw [h]

variable [LawfulMonad m]

@[simp] theorem on_get : (get : Bookkeeping ε m Ledgers).on l = pure (.ok l, l) := by
  show (Except.ok <$> (get : StateT Ledgers m Ledgers)).run l = _
  simp

@[simp] theorem on_modify (f : Ledgers → Ledgers) :
    (modify f : Bookkeeping ε m Unit).on l = pure (.ok (), f l) := by
  show (Except.ok <$> (modify f : StateT Ledgers m Unit)).run l = _
  simp

@[simp] theorem on_get_bind (next : Ledgers → Bookkeeping ε m β) :
    ((get : Bookkeeping ε m Ledgers) >>= next).on l = (next l).on l := by
  rw [on_bind, on_get, pure_bind]

@[simp] theorem on_modify_bind (f : Ledgers → Ledgers) (next : Unit → Bookkeeping ε m β) :
    ((modify f : Bookkeeping ε m Unit) >>= next).on l = (next ()).on (f l) := by
  rw [on_bind, on_modify, pure_bind]

theorem on_ask (merge : MergeStrategy (ExceptT ε m)) (key : String)
    (existing observed : FieldType) :
    (ask merge key existing observed).on l =
      (fun answer => (answer.mapError .raised, l)) <$> (merge key existing observed).run := by
  unfold on ask
  simp [StateT.run_lift]

section Settle

variable (merge : MergeStrategy (ExceptT ε m)) {key : String} (observed : FieldType)

theorem on_settleType_of_new (h : key ∉ Entries.keys l.types) :
    (settleType merge key observed).on l =
      pure (.ok (), ((l.setType key observed).setCount key 0).setValues key []) := by
  unfold settleType
  simp [h]

theorem on_settleType_of_known {t : FieldType} (h : Entries.get? l.types key = some t) :
    (settleType merge key observed).on l =
      (fun answer =>
        match answer with
        | .ok type => (.ok (), l.setType key type)
        | .error e => (.error (.raised e), l)) <$> (merge key t observed).run := by
  unfold settleType
  rw [on_get_bind, if_pos (Entries.mem_keys_of_get? h), on_get_bind, lookUp_eq h, pure_bind,
    on_bind, on_ask, bind_map_left, map_eq_pure_bind]
  refine bind_congr fun answer => ?_
  cases answer <;> simp [Except.mapError]

end Settle

theorem on_countUp {key : String} {n : Nat} (h : Entries.get? l.counts key = some n) :
    (countUp key : Bookkeeping ε m Unit).on l = pure (.ok (), l.setCount key (n + 1)) := by
  unfold countUp
  rw [on_get_bind, lookUp_eq h, pure_bind, on_modify]

theorem on_keepValue (limit : Nat) {key : String} {vs : List Json}
    (h : Entries.get? l.values key = some vs) (v : Json) :
    (keepValue limit key v : Bookkeeping ε m Unit).on l =
      pure (.ok (), l.setValues key (Scan.keepSample limit vs v)) := by
  unfold keepValue Scan.keepSample
  rw [on_get_bind, lookUp_eq h, pure_bind]
  by_cases hroom : vs.length < limit
  · rw [if_pos hroom, if_pos hroom, on_get_bind, lookUp_eq h, pure_bind, on_modify]
  · rw [if_neg hroom, if_neg hroom, on_pure]
    unfold Ledgers.setValues
    rw [Entries.put_of_get? h]

/-- A value is counted and kept, whatever its type became. -/
theorem on_countUp_keepValue (limit : Nat) {key : String} {n : Nat} {vs : List Json}
    (hcount : Entries.get? l.counts key = some n) (hvalues : Entries.get? l.values key = some vs)
    (v : Json) :
    (do countUp key; keepValue limit key v : Bookkeeping ε m Unit).on l =
      pure (.ok (), (l.setCount key (n + 1)).setValues key (Scan.keepSample limit vs v)) := by
  have hkept : Entries.get? (l.setCount key (n + 1)).values key = some vs := hvalues
  rw [on_bind, on_countUp l hcount, pure_bind]
  exact on_keepValue _ limit hkept v

end Actions

end Bookkeeping

/-! ## 3. The ledgers of a scan -/

namespace Scan

/-- The tallies of a scan, in one dictionary for each of their parts. -/
def ledgers (scan : Scan) : Ledgers where
  types := scan.tallies.map fun e => (e.1, e.2.type)
  counts := scan.tallies.map fun e => (e.1, e.2.count)
  values := scan.tallies.map fun e => (e.1, e.2.samples)
  examined := scan.examined

/-- How a step of a scan ends on its ledgers. -/
def afterwards {ε : Type} (scan : Scan) : Except ε Scan → Except (Halted ε) Unit × Ledgers
  | .ok after => (.ok (), after.ledgers)
  | .error e => (.error (.raised e), scan.ledgers)

variable (scan : Scan) {key : String} {t : Tally}

theorem keys_types_ledgers : Entries.keys scan.ledgers.types = Entries.keys scan.tallies :=
  Entries.keys_map (fun _ => Tally.type) scan.tallies

theorem keys_counts_ledgers : Entries.keys scan.ledgers.counts = Entries.keys scan.tallies :=
  Entries.keys_map (fun _ => Tally.count) scan.tallies

theorem keys_values_ledgers : Entries.keys scan.ledgers.values = Entries.keys scan.tallies :=
  Entries.keys_map (fun _ => Tally.samples) scan.tallies

section Known

variable {scan} (h : Entries.get? scan.tallies key = some t)
include h

theorem get?_types_ledgers : Entries.get? scan.ledgers.types key = some t.type :=
  (Entries.get?_map (fun _ => Tally.type) scan.tallies key).trans
    (congrArg (Option.map Tally.type) h)

theorem get?_counts_ledgers : Entries.get? scan.ledgers.counts key = some t.count :=
  (Entries.get?_map (fun _ => Tally.count) scan.tallies key).trans
    (congrArg (Option.map Tally.count) h)

theorem get?_values_ledgers : Entries.get? scan.ledgers.values key = some t.samples :=
  (Entries.get?_map (fun _ => Tally.samples) scan.tallies key).trans
    (congrArg (Option.map Tally.samples) h)

end Known

/-- A tally is put by putting its parts. -/
theorem ledgers_put (key : String) (t : Tally) :
    ({ scan with tallies := Entries.put scan.tallies key t } : Scan).ledgers =
      ((scan.ledgers.setType key t.type).setCount key t.count).setValues key t.samples := by
  unfold ledgers Ledgers.setType Ledgers.setCount Ledgers.setValues
  dsimp only
  rw [← Entries.put_map Tally.type, ← Entries.put_map Tally.count, ← Entries.put_map Tally.samples]

end Scan

namespace Bookkeeping

section Pass

variable {ε : Type} {m : Type → Type} [Monad m] [LawfulMonad m] (settings : InferenceSettings)
  (merge : MergeStrategy (ExceptT ε m)) (scan : Scan)

theorem on_record_of_new {key : String} (v : Json) (h : Entries.get? scan.tallies key = none) :
    (record settings merge key v).on scan.ledgers =
      scan.afterwards <$> (scan.record settings merge key v).run := by
  have hnew : key ∉ Entries.keys scan.ledgers.types := by
    rw [scan.keys_types_ledgers]
    exact (Entries.get?_eq_none_iff _ _).mp h
  unfold record Scan.record
  rw [on_bind, h, on_settleType_of_new _ _ _ hnew, pure_bind]
  dsimp only
  rw [on_countUp_keepValue _ _ (Entries.get?_put_self _ _ _) (Entries.get?_put_self _ _ _),
    ExceptT.run_pure, map_pure]
  show _ = pure (Except.ok (), Scan.ledgers _)
  rw [Scan.ledgers_put]
  -- what a first entry holds is written over in the same step
  show pure (Except.ok (), ((((scan.ledgers.setType key _).setCount key 0).setCount key
    (0 + 1)).setValues key []).setValues key _) = _
  rw [Ledgers.setCount_setCount, Ledgers.setValues_setValues]

theorem on_record_of_known {key : String} {t : Tally} (v : Json)
    (h : Entries.get? scan.tallies key = some t) :
    (record settings merge key v).on scan.ledgers =
      scan.afterwards <$> (scan.record settings merge key v).run := by
  unfold record Scan.record
  rw [on_bind, h]
  dsimp only
  rw [on_settleType_of_known _ _ _ (Scan.get?_types_ledgers h), bind_map_left, ExceptT.run_bind,
    map_bind]
  refine bind_congr fun answer => ?_
  cases answer with
  | error e =>
    dsimp only
    rw [map_pure]
    rfl
  | ok type =>
    have hcount : Entries.get? (scan.ledgers.setType key type).counts key = some t.count :=
      Scan.get?_counts_ledgers h
    have hvalues : Entries.get? (scan.ledgers.setType key type).values key = some t.samples :=
      Scan.get?_values_ledgers h
    dsimp only
    rw [on_countUp_keepValue _ _ hcount hvalues, ExceptT.run_pure, map_pure]
    show _ = pure (Except.ok (), Scan.ledgers _)
    rw [Scan.ledgers_put]

/-- **One more value does to the dictionaries what it does to the tallies.** -/
theorem on_record (key : String) (v : Json) :
    (record settings merge key v).on scan.ledgers =
      scan.afterwards <$> (scan.record settings merge key v).run := by
  cases h : Entries.get? scan.tallies key with
  | none => exact on_record_of_new settings merge scan v h
  | some t => exact on_record_of_known settings merge scan v h

theorem on_member (entry : String × Json) :
    (member settings merge entry).on scan.ledgers =
      scan.afterwards <$> (scan.member settings merge entry).run := by
  unfold member Scan.member
  cases settings.reservedKeys.contains entry.1 with
  | false => exact on_record settings merge scan entry.1 entry.2
  | true =>
    show pure (Except.ok (), scan.ledgers) = scan.afterwards <$> pure (Except.ok scan)
    rw [map_pure]
    rfl

end Pass

/-! ## 4. The pass over ledgers is the scan -/

/-- The ledgers that work leaves, unless it is halted. -/
def completed {ε : Type} : Except (Halted ε) Unit × Ledgers → Except (Halted ε) Ledgers
  | (.ok (), l) => .ok l
  | (.error h, _) => .error h

/-- The ledgers of a scan, or the error of its strategy. -/
def ledgersOf {ε : Type} (outcome : Except ε Scan) : Except (Halted ε) Ledgers :=
  (outcome.map (·.ledgers)).mapError .raised

theorem completed_afterwards {ε : Type} (scan : Scan) (outcome : Except ε Scan) :
    completed (scan.afterwards outcome) = ledgersOf outcome := by
  cases outcome <;> rfl

variable {ε : Type} {m : Type → Type} [Monad m]

/-- **Work on the ledgers of a scan ends as the scan does.** Ledgers that are left by halted work
    are no part of this: no later work sees them. -/
def Tracks (work : Bookkeeping ε m Unit) (scan : Scan) (run : ExceptT ε m Scan) : Prop :=
  completed <$> work.on scan.ledgers = ledgersOf <$> run.run

variable [LawfulMonad m]

theorem map_completed_bind {α β : Type} (work : Bookkeeping ε m Unit) (next : Bookkeeping ε m α)
    (l : Ledgers) (f : Except (Halted ε) α × Ledgers → Except (Halted ε) β)
    (hf : ∀ h l, f (.error h, l) = .error h) :
    f <$> (work >>= fun _ => next).on l = (completed <$> work.on l) >>= fun r =>
      match r with
      | .ok l => f <$> next.on l
      | .error h => pure (.error h) := by
  rw [on_bind, map_bind, bind_map_left]
  refine bind_congr fun r => ?_
  obtain ⟨outcome, left⟩ := r
  cases outcome with
  | ok _ => rfl
  | error h =>
    show f <$> pure (Except.error h, left) = pure (Except.error h)
    rw [map_pure, hf]

section Tracks

variable {scan : Scan}

theorem tracks_pure : Tracks (pure () : Bookkeeping ε m Unit) scan (pure scan) := by
  unfold Tracks
  rw [on_pure, map_pure, ExceptT.run_pure, map_pure]
  rfl

theorem Tracks.bind {work next : Bookkeeping ε m Unit} {run : ExceptT ε m Scan}
    {go : Scan → ExceptT ε m Scan} (hwork : Tracks work scan run)
    (hnext : ∀ after, Tracks next after (go after)) :
    Tracks (work >>= fun _ => next) scan (run >>= go) := by
  unfold Tracks at hwork ⊢
  rw [map_completed_bind _ _ _ completed fun _ _ => rfl, hwork, bind_map_left, ExceptT.run_bind,
    map_bind]
  refine bind_congr fun outcome => ?_
  cases outcome with
  | ok after => exact hnext after
  | error e =>
    show pure (Except.error (Halted.raised e)) = ledgersOf <$> pure (Except.error e)
    rw [map_pure]
    rfl

theorem Tracks.forM {α : Type} {work : α → Bookkeeping ε m Unit}
    {go : Scan → α → ExceptT ε m Scan} (h : ∀ scan a, Tracks (work a) scan (go scan a))
    (as : List α) (scan : Scan) : Tracks (as.forM work) scan (as.foldlM go scan) := by
  induction as generalizing scan with
  | nil => exact tracks_pure
  | cons a as ih =>
    rw [List.foldlM_cons]
    exact (h scan a).bind fun after => ih after

end Tracks

section Pass

variable (settings : InferenceSettings) (merge : MergeStrategy (ExceptT ε m))

theorem tracks_member (scan : Scan) (entry : String × Json) :
    Tracks (member settings merge entry) scan (scan.member settings merge entry) := by
  unfold Tracks
  rw [on_member, Functor.map_map]
  simp only [completed_afterwards]

theorem tracks_sample (scan : Scan) (v : Json) :
    Tracks (sample settings merge v) scan (scan.sample settings merge v) := by
  cases v with
  | obj ms =>
    have hbegin : Tracks (beginDocument : Bookkeeping ε m Unit) scan
        (pure { scan with examined := scan.examined + 1 }) := by
      unfold Tracks beginDocument
      rw [on_modify, map_pure, ExceptT.run_pure, map_pure]
      rfl
    have h := hbegin.bind fun after => Tracks.forM (tracks_member settings merge) ms after
    rwa [pure_bind] at h
  | _ => exact tracks_pure

/-- **The pass over ledgers ends as the scan does.** -/
theorem tracks_pass (samples : List Json) :
    Tracks (pass settings merge samples) {} (Scan.run settings merge samples) :=
  Tracks.forM (tracks_sample settings merge) samples {}

end Pass

/-! ## 5. The model by ledgers -/

theorem on_mapM {α β : Type} {work : α → Bookkeeping ε m β} {result : α → β} {l : Ledgers}
    {as : List α} (h : ∀ a ∈ as, (work a).on l = pure (.ok (result a), l)) :
    (as.mapM work).on l = pure (.ok (as.map result), l) := by
  induction as with
  | nil => rfl
  | cons a as ih =>
    rw [List.mapM_cons, on_bind, h a List.mem_cons_self, pure_bind]
    dsimp only
    rw [on_bind, ih fun b hb => h b (List.mem_cons_of_mem _ hb), pure_bind]
    rfl

section Model

variable (settings : InferenceSettings) {scan : Scan}

/-- **The field of a key that was met**: it is in each dictionary, and a document was met. -/
theorem on_field {key : String} {t : Tally} (h : Entries.get? scan.tallies key = some t)
    (hpos : scan.examined ≠ 0) :
    (field settings key : Bookkeeping ε m (String × Field)).on scan.ledgers =
      pure (.ok (key, Scan.fieldOf settings scan.examined key t), scan.ledgers) := by
  have hshare : (share t.count scan.ledgers.examined : Bookkeeping ε m Double) =
      pure (.ofQuotient false t.count scan.examined) := if_neg hpos
  unfold field
  rw [on_get_bind, lookUp_eq (Scan.get?_types_ledgers h), pure_bind, on_get_bind,
    lookUp_eq (Scan.get?_counts_ledgers h), pure_bind, on_get_bind, hshare, pure_bind, on_get_bind,
    lookUp_eq (Scan.get?_values_ledgers h), pure_bind, on_pure]
  rfl

theorem on_model (hkeys : (Entries.keys scan.tallies).Nodup)
    (hpos : scan.tallies ≠ [] → scan.examined ≠ 0) :
    (model settings : Bookkeeping ε m FieldModel).on scan.ledgers =
      pure (.ok (scan.model settings), scan.ledgers) := by
  have hfields : ((Entries.keys scan.ledgers.types).mapM (field settings)).on scan.ledgers =
      (pure (.ok (scan.model settings).fields, scan.ledgers) :
        m (Except (Halted ε) (List (String × Field)) × Ledgers)) := by
    rw [scan.keys_types_ledgers]
    unfold Entries.keys
    rw [List.mapM_map]
    refine on_mapM fun e he => ?_
    exact on_field settings ((Entries.get?_eq_some_iff hkeys e.1 e.2).mpr he)
      (hpos (List.ne_nil_of_mem he))
  unfold model
  rw [on_get_bind, on_bind, hfields, pure_bind]
  dsimp only
  rw [on_get_bind, on_pure]
  rfl

end Model

end Bookkeeping

section Finished

variable {m : Type → Type} [Monad m] [LawfulMonad m] [MonadAttach m] [LawfulMonadAttach m]

/-- What comes after a run has to do with what the run may return only. -/
theorem bind_congr_of_canReturn {α β : Type} {run : m α} {f g : α → m β}
    (h : ∀ a, CanReturn run a → f a = g a) : run >>= f = run >>= g := by
  rw [← WeaklyLawfulMonadAttach.map_attach (x := run), bind_map_left, bind_map_left]
  exact bind_congr fun a => h a.1 a.2

/-- The keys of a scan are those that its observations met. -/
theorem Scan.keys_of_canReturn {settings : InferenceSettings} {merge : MergeStrategy m}
    {obs : List Observation} {scan : Scan}
    (h : CanReturn (ofObservations settings merge obs) scan) :
    Entries.keys scan.tallies = fieldKeys obs := by
  induction obs using List.reverseRecOn generalizing scan with
  | nil =>
    rw [← eq_of_canReturn_pure h]
    rfl
  | append_singleton obs o ih =>
    rw [ofObservations_append_singleton] at h
    obtain ⟨before, hbefore, hstep⟩ := canReturn_bind_imp' h
    rw [step_eq] at hstep
    obtain ⟨type, _, rfl⟩ := canReturn_map_imp' hstep
    show Entries.keys (Entries.put _ _ _) = _
    rw [Entries.keys_put, ih hbefore, fieldKeys_append_singleton]

/-- A finished scan knows each key once, and none unless it met a document. -/
theorem Scan.finished_of_canReturn {settings : InferenceSettings} {merge : MergeStrategy m}
    {samples : List Json} {scan : Scan} (h : CanReturn (run settings merge samples) scan) :
    (Entries.keys scan.tallies).Nodup ∧ (scan.tallies ≠ [] → scan.examined ≠ 0) := by
  rw [run_eq] at h
  obtain ⟨scan, hscan, rfl⟩ := canReturn_map_imp' h
  have hkeys : Entries.keys scan.tallies = fieldKeys (observations settings samples) :=
    keys_of_canReturn hscan
  refine ⟨hkeys ▸ nodup_fieldKeys _, fun hmet hnone => hmet ?_⟩
  have hobs : observations settings samples = [] := by
    unfold observations
    rw [List.length_eq_zero_iff.mp hnone, List.flatMap_nil]
  rw [hobs] at hkeys
  exact List.map_eq_nil_iff.mp hkeys

end Finished

/-- **The model by ledgers is the model by tallies**: each key that is looked up is found, and no
    share is one of no documents. -/
theorem Bookkeeping.on_fieldModel {ε : Type} {m : Type → Type} [Monad m] [LawfulMonad m]
    [MonadAttach m] [LawfulMonadAttach m] (settings : InferenceSettings)
    (merge : MergeStrategy (ExceptT ε m)) (samples : List Json) :
    (·.1) <$> (fieldModel settings merge samples).on {} =
      (·.mapError .raised) <$> (FieldModel.ofSamples settings merge samples).run := by
  have hpass : completed <$> (pass settings merge samples).on {} =
      ledgersOf <$> (Scan.run settings merge samples).run := tracks_pass settings merge samples
  unfold fieldModel FieldModel.ofSamples
  rw [map_completed_bind _ _ _ (·.1) fun _ _ => rfl, hpass, bind_map_left, ExceptT.run_bind,
    map_bind]
  refine bind_congr_of_canReturn fun outcome houtcome => ?_
  cases outcome with
  | error e =>
    show pure (Except.error (Halted.raised e)) = _ <$> pure (Except.error e)
    rw [map_pure]
    rfl
  | ok scan =>
    obtain ⟨hkeys, hpos⟩ := Scan.finished_of_canReturn (m := ExceptT ε m) houtcome
    show (·.1) <$> (model settings).on scan.ledgers = _ <$> pure (Except.ok (scan.model settings))
    rw [on_model settings hkeys hpos, map_pure, map_pure]
    rfl

end SampleSchema
