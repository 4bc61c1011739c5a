import SampleSchema.Proofs.Lists
import SampleSchema.Scan

/-!
# What a scan is to find, field by field

A second reading of samples, beside the one pass of `Scan.run`. The objects among the samples are
the DOCUMENTS, and a member of a document whose key is not reserved is an OBSERVATION: one value of
one field. Everything known of a field is read off its own observations:

* `typesOf` and `heldType`: the types of its values, and the strategy folded over them from the
  left;
* `callAt?` and `callsOf`: the call of the strategy that an observation makes if it is not the first
  of its field;
* `FieldModel.fieldwise`: the model, one field after the other.

Most facts here say how a reading grows by one observation at the end: that is the step of every
induction over a scan.
-/

namespace SampleSchema

/-! ## 1. Documents and observations -/

/-- One value of one field. -/
abbrev Observation := String × Json

/-- The documents among samples: the members of each object. -/
def documents (samples : List Json) : List (List (String × Json)) :=
  samples.filterMap fun v => match v with
    | .obj ms => some ms
    | _ => none

/-- The observations that samples give: the members of the documents whose key is not reserved. -/
def observations (settings : InferenceSettings) (samples : List Json) : List Observation :=
  (documents samples).flatMap fun ms => ms.filter fun e => !settings.reservedKeys.contains e.1

@[simp] theorem documents_obj (ms : List (String × Json)) (samples : List Json) :
    documents (.obj ms :: samples) = ms :: documents samples := rfl

theorem documents_of_not_isObject {v : Json} (hv : v.isObject = false) (samples : List Json) :
    documents (v :: samples) = documents samples := by
  cases v <;> first | rfl | cases hv

theorem documents_append (xs ys : List Json) :
    documents (xs ++ ys) = documents xs ++ documents ys := by
  unfold documents
  rw [List.filterMap_append]

theorem length_documents (samples : List Json) :
    (documents samples).length = samples.countP (·.isObject) := by
  induction samples with
  | nil => rfl
  | cons v rest ih =>
    cases hv : v.isObject with
    | false => rw [documents_of_not_isObject hv, ih, List.countP_cons_of_neg (by simp [hv])]
    | true =>
      obtain ⟨ms, rfl⟩ : ∃ ms, v = .obj ms := by
        cases v <;> first | exact ⟨_, rfl⟩ | cases hv
      rw [documents_obj, List.length_cons, ih, List.countP_cons_of_pos hv]

theorem observations_append (settings : InferenceSettings) (xs ys : List Json) :
    observations settings (xs ++ ys) = observations settings xs ++ observations settings ys := by
  unfold observations
  rw [documents_append, List.flatMap_append]

/-- No observation is of a reserved key. -/
theorem not_reserved_of_mem_observations {settings : InferenceSettings} {samples : List Json}
    {o : Observation} (h : o ∈ observations settings samples) :
    o.1 ∉ settings.reservedKeys := by
  obtain ⟨ms, _, ho⟩ := List.mem_flatMap.mp h
  simpa using (List.mem_filter.mp ho).2

/-! ## 2. The observations of one field -/

/-- The keys that are met, in the order in which they are first met. -/
def fieldKeys (obs : List Observation) : List String := (obs.map (·.1)).eraseDups

/-- The values of one field, in order. -/
def valuesOf (obs : List Observation) (key : String) : List Json :=
  (obs.filter (·.1 == key)).map (·.2)

/-- The types of the values of one field, in order. -/
def typesOf (obs : List Observation) (key : String) : List FieldType :=
  (valuesOf obs key).map .ofJson

theorem mem_fieldKeys {obs : List Observation} {key : String} :
    key ∈ fieldKeys obs ↔ key ∈ obs.map (·.1) := List.mem_eraseDups

/-- **The keys that are met** are those of documents that are not reserved. -/
theorem mem_fieldKeys_observations {settings : InferenceSettings} {samples : List Json}
    {key : String} : key ∈ fieldKeys (observations settings samples) ↔
      key ∉ settings.reservedKeys ∧ ∃ ms ∈ documents samples, key ∈ Entries.keys ms := by
  rw [mem_fieldKeys]
  unfold observations Entries.keys
  constructor
  · intro h
    obtain ⟨e, he, rfl⟩ := List.mem_map.mp h
    obtain ⟨ms, hms, hkept⟩ := List.mem_flatMap.mp he
    obtain ⟨he, hfree⟩ := List.mem_filter.mp hkept
    exact ⟨by simpa using hfree, ms, hms, List.mem_map_of_mem he⟩
  · rintro ⟨hfree, ms, hms, hkey⟩
    obtain ⟨e, he, rfl⟩ := List.mem_map.mp hkey
    exact List.mem_map_of_mem
      (List.mem_flatMap.mpr ⟨ms, hms, List.mem_filter.mpr ⟨he, by simpa using hfree⟩⟩)

theorem fieldKeys_append_singleton (obs : List Observation) (o : Observation) :
    fieldKeys (obs ++ [o]) =
      if o.1 ∈ fieldKeys obs then fieldKeys obs else fieldKeys obs ++ [o.1] := by
  unfold fieldKeys
  rw [List.map_append, List.eraseDups_append]
  by_cases h : o.1 ∈ obs.map (·.1)
  · have h' : o.1 ∈ (obs.map (·.1)).eraseDups := List.mem_eraseDups.mpr h
    rw [if_pos h']
    simp only [List.map_cons, List.map_nil, List.removeAll, List.filter_cons]
    simp [h]
  · have h' : o.1 ∉ (obs.map (·.1)).eraseDups := fun e => h (List.mem_eraseDups.mp e)
    rw [if_neg h']
    simp only [List.map_cons, List.map_nil, List.removeAll, List.filter_cons]
    simp [h, List.eraseDups_cons]

/-- The keys of more observations begin with those of the first ones. -/
theorem fieldKeys_prefix (xs ys : List Observation) : fieldKeys xs <+: fieldKeys (xs ++ ys) := by
  unfold fieldKeys
  rw [List.map_append, List.eraseDups_append]
  exact List.prefix_append _ _

theorem valuesOf_append (xs ys : List Observation) (key : String) :
    valuesOf (xs ++ ys) key = valuesOf xs key ++ valuesOf ys key := by
  unfold valuesOf
  rw [List.filter_append, List.map_append]

theorem typesOf_append (xs ys : List Observation) (key : String) :
    typesOf (xs ++ ys) key = typesOf xs key ++ typesOf ys key := by
  unfold typesOf
  rw [valuesOf_append, List.map_append]

@[simp] theorem valuesOf_singleton_self (o : Observation) : valuesOf [o] o.1 = [o.2] := by
  simp [valuesOf]

theorem valuesOf_singleton_of_ne {o : Observation} {key : String} (h : key ≠ o.1) :
    valuesOf [o] key = [] := by
  simp [valuesOf, Ne.symm h]

@[simp] theorem typesOf_singleton_self (o : Observation) : typesOf [o] o.1 = [.ofJson o.2] := by
  simp [typesOf]

/-- A field has values exactly if it is met. -/
theorem valuesOf_eq_nil_iff {obs : List Observation} {key : String} :
    valuesOf obs key = [] ↔ key ∉ fieldKeys obs := by
  rw [mem_fieldKeys]
  unfold valuesOf
  simp only [List.map_eq_nil_iff, List.filter_eq_nil_iff, beq_iff_eq, List.mem_map, not_exists,
    not_and]

theorem typesOf_eq_nil_iff {obs : List Observation} {key : String} :
    typesOf obs key = [] ↔ key ∉ fieldKeys obs := by
  rw [← valuesOf_eq_nil_iff]
  exact List.map_eq_nil_iff

/-! ## 3. A strategy folded over the types of a field -/

section Fold

variable {m : Type → Type} [Monad m]

/-- The type that a field holds after values of the given types: the strategy folded over them, from
    the first on. A field without values is never met; no evidence is no type. -/
def heldType (merge : MergeStrategy m) (key : String) : List FieldType → m FieldType
  | [] => pure .unknown
  | first :: later => later.foldlM (merge key) first

/-- One more value, and one more call of the strategy. -/
theorem heldType_append_singleton [LawfulMonad m] (merge : MergeStrategy m) (key : String)
    {ts : List FieldType} (h : ts ≠ []) (t : FieldType) :
    heldType merge key (ts ++ [t]) = heldType merge key ts >>= fun held => merge key held t := by
  cases ts with
  | nil => exact absurd rfl h
  | cons first later =>
    show (later ++ [t]).foldlM (merge key) first = _
    rw [List.foldlM_append]
    simp [heldType]

end Fold

/-! ## 4. The calls of a strategy -/

/-- One call of a strategy. -/
structure MergeCall where
  field : String
  existing : FieldType
  observed : FieldType
  deriving DecidableEq, Repr

/-- What a strategy answers to a call. -/
def MergeCall.answer {m : Type → Type} (merge : MergeStrategy m) (c : MergeCall) : m FieldType :=
  merge c.field c.existing c.observed

section Calls

variable {ε : Type} (merge : MergeStrategy (Except ε))

/-- The call that an observation makes after others: none if it is the first of its field, else one
    with the type that the field holds by then. (After an error for the same field there is no such
    type, and no scan comes that far.) -/
def callAt? (before : List Observation) (o : Observation) : Option MergeCall :=
  if o.1 ∈ fieldKeys before then
    match heldType merge o.1 (typesOf before o.1) with
    | .ok held => some ⟨o.1, held, .ofJson o.2⟩
    | .error _ => none
  else none

/-- The calls that observations make, in their order. -/
def callsOf (obs : List Observation) : List MergeCall :=
  (obs.inits.zip obs).filterMap fun (before, o) => callAt? merge before o

/-- Of some calls, those that are made: up to the first that is answered by an error. -/
def madeCalls : List MergeCall → List MergeCall
  | [] => []
  | c :: rest =>
    c :: match c.answer merge with
      | .ok _ => madeCalls rest
      | .error _ => []

/-- The answers to calls, or the first error among them. -/
def answers (calls : List MergeCall) : Except ε (List FieldType) := calls.mapM (·.answer merge)

/-- A strategy that keeps a list of the calls made to it, also of one that it answers by an
    error. -/
def recorded : MergeStrategy (ExceptT ε (StateM (List MergeCall))) :=
  fun field existing observed => ExceptT.mk do
    modify (· ++ [⟨field, existing, observed⟩])
    pure (merge field existing observed)

theorem callsOf_append_singleton (obs : List Observation) (o : Observation) :
    callsOf merge (obs ++ [o]) = callsOf merge obs ++ (callAt? merge obs o).toList := by
  unfold callsOf
  rw [inits_zip_append_singleton, List.filterMap_append]
  cases h : callAt? merge obs o <;> simp [h]

variable {merge}

theorem madeCalls_append_of_ok {calls : List MergeCall} {ts : List FieldType}
    (h : answers merge calls = .ok ts) (more : List MergeCall) :
    madeCalls merge (calls ++ more) = calls ++ madeCalls merge more := by
  induction calls generalizing ts with
  | nil => rfl
  | cons c rest ih =>
    unfold answers at h
    rw [List.mapM_cons] at h
    cases hc : c.answer merge with
    | error e => rw [hc] at h; cases h
    | ok t =>
      cases hr : rest.mapM (·.answer merge) with
      | error e => rw [hc, hr] at h; cases h
      | ok us =>
        simp only [List.cons_append, madeCalls, hc]
        rw [ih hr]

theorem madeCalls_append_of_error {calls : List MergeCall} {e : ε}
    (h : answers merge calls = .error e) (more : List MergeCall) :
    madeCalls merge (calls ++ more) = madeCalls merge calls := by
  induction calls with
  | nil => cases h
  | cons c rest ih =>
    unfold answers at h
    rw [List.mapM_cons] at h
    cases hc : c.answer merge with
    | error e' => simp only [List.cons_append, madeCalls, hc]
    | ok t =>
      cases hr : rest.mapM (·.answer merge) with
      | ok us => rw [hc, hr] at h; cases h
      | error e' =>
        rw [hc, hr] at h
        simp only [List.cons_append, madeCalls, hc]
        rw [ih]
        cases h
        exact hr

/-- Where no call is answered by an error, all are made. -/
theorem madeCalls_of_ok {calls : List MergeCall} {ts : List FieldType}
    (h : answers merge calls = .ok ts) : madeCalls merge calls = calls := by
  have := madeCalls_append_of_ok h []
  rwa [List.append_nil, madeCalls, List.append_nil] at this

end Calls

/-! ## 5. The model, field by field -/

section Reference

variable {ε : Type} (settings : InferenceSettings) (merge : MergeStrategy (Except ε))
  (samples : List Json)

/-- One field, made from its own observations and the number of documents it is a member of. -/
def Field.ofObservations (key : String) : Except ε Field :=
  let docs := documents samples
  let obs := observations settings samples
  let share := Double.ofQuotient false (docs.countP (key ∈ Entries.keys ·)) docs.length
  (heldType merge key (typesOf obs key)).map fun type =>
    { name := key
      type := type
      required := settings.requiredThreshold.lt share
      samples := (valuesOf obs key).take settings.sampleValueLimit }

/-- **The model of samples, field by field.** The calls of the strategy come first, as one of them
    may be answered by an error. -/
def FieldModel.fieldwise : Except ε FieldModel := do
  let obs := observations settings samples
  let _ ← answers merge (callsOf merge obs)
  let fields ← (fieldKeys obs).mapM fun key =>
    (Field.ofObservations settings merge samples key).map fun f => (key, f)
  pure { fields := fields, examined := (documents samples).length }

end Reference

end SampleSchema
