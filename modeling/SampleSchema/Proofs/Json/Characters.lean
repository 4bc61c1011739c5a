import SampleSchema.Json.Value

/-!
# Values of texts of characters

A value that was read is a value of texts of characters exactly if it is one with its texts as code
points (`JsonOf.json?_eq_some_iff`), so nothing of it is lost or made up on the way. It is an object,
a list or a dictionary exactly if the other one is.
-/

namespace SampleSchema

namespace JsonOf

variable {τ σ : Type}

/-! ## 1. Parts -/

theorem mapItems_eq (f : τ → σ) (items : List (JsonOf τ)) :
    mapItems f items = items.map (mapTexts f) := by
  induction items with
  | nil => rfl
  | cons v rest ih => rw [mapItems, ih, List.map_cons]

theorem mapMembers_eq (f : τ → σ) (ms : List (τ × JsonOf τ)) :
    mapMembers f ms = ms.map fun e => (f e.1, mapTexts f e.2) := by
  induction ms with
  | nil => rfl
  | cons e rest ih => rw [mapMembers, ih, List.map_cons]

theorem keys_mapMembers (f : τ → σ) (ms : List (τ × JsonOf τ)) :
    Entries.keys (mapMembers f ms) = (Entries.keys ms).map f := by
  rw [mapMembers_eq]
  simp [Entries.keys, Function.comp_def]

theorem isObject_mapTexts (f : τ → σ) (v : JsonOf τ) : (v.mapTexts f).isObject = v.isObject := by
  cases v <;> rfl

theorem members_mapTexts (f : τ → σ) (v : JsonOf τ) :
    (v.mapTexts f).members = mapMembers f v.members := by
  cases v <;> rfl

/-! ## 2. Texts taken back -/

variable {f : τ → Option σ} {g : σ → τ}

mutual

/-- **A value has other texts exactly if it is a value with its texts put back.** -/
theorem mapTexts?_eq_some_iff (hf : ∀ {s t}, f s = some t ↔ s = g t) (v : JsonOf τ)
    (w : JsonOf σ) : v.mapTexts? f = some w ↔ v = w.mapTexts g := by
  cases v with
  | null => cases w <;> simp [mapTexts?, mapTexts]
  | bool b => cases w <;> simp [mapTexts?, mapTexts, eq_comm]
  | int z => cases w <;> simp [mapTexts?, mapTexts, eq_comm]
  | double x => cases w <;> simp [mapTexts?, mapTexts, eq_comm]
  | str s => cases w <;> simp [mapTexts?, mapTexts, hf]
  | arr items => cases w <;> simp [mapTexts?, mapTexts, mapItems?_eq_some_iff hf items]
  | obj ms => cases w <;> simp [mapTexts?, mapTexts, mapMembers?_eq_some_iff hf ms]

theorem mapItems?_eq_some_iff (hf : ∀ {s t}, f s = some t ↔ s = g t) (items : List (JsonOf τ))
    (items' : List (JsonOf σ)) : mapItems? f items = some items' ↔ items = mapItems g items' := by
  cases items with
  | nil => cases items' <;> simp [mapItems?, mapItems]
  | cons v rest =>
    have hv := mapTexts?_eq_some_iff hf v
    have hrest := mapItems?_eq_some_iff hf rest
    cases items' with
    | nil => simp [mapItems?, mapItems, Option.bind_eq_some_iff]
    | cons w rest' => simp [mapItems?, mapItems, Option.bind_eq_some_iff, hv, hrest]

theorem mapMembers?_eq_some_iff (hf : ∀ {s t}, f s = some t ↔ s = g t)
    (ms : List (τ × JsonOf τ)) (ms' : List (σ × JsonOf σ)) :
    mapMembers? f ms = some ms' ↔ ms = mapMembers g ms' := by
  cases ms with
  | nil => cases ms' <;> simp [mapMembers?, mapMembers]
  | cons e rest =>
    obtain ⟨key, v⟩ := e
    have hv := mapTexts?_eq_some_iff hf v
    have hrest := mapMembers?_eq_some_iff hf rest
    cases ms' with
    | nil => simp [mapMembers?, mapMembers, Option.bind_eq_some_iff]
    | cons e' rest' =>
      obtain ⟨key', w⟩ := e'
      simp only [mapMembers?, mapMembers, bind, Option.bind_eq_some_iff, hf, hv, hrest,
        Option.some.injEq, List.cons.injEq, Prod.mk.injEq]
      constructor
      · rintro ⟨_, hkey, _, hvalue, _, hms, ⟨rfl, rfl⟩, rfl⟩
        exact ⟨⟨hkey, hvalue⟩, hms⟩
      · rintro ⟨⟨hkey, hvalue⟩, hms⟩
        exact ⟨_, hkey, _, hvalue, _, hms, ⟨rfl, rfl⟩, rfl⟩

end

mutual

/-- Texts that are put back are as they were. -/
theorem mapTexts_mapTexts {f : τ → σ} {g : σ → τ} (h : ∀ s, f (g s) = s) (v : JsonOf σ) :
    (v.mapTexts g).mapTexts f = v := by
  cases v with
  | null | bool _ | int _ | double _ => rfl
  | str s => rw [mapTexts, mapTexts, h]
  | arr items => rw [mapTexts, mapTexts, mapItems_mapItems h items]
  | obj ms => rw [mapTexts, mapTexts, mapMembers_mapMembers h ms]

theorem mapItems_mapItems {f : τ → σ} {g : σ → τ} (h : ∀ s, f (g s) = s)
    (items : List (JsonOf σ)) : mapItems f (mapItems g items) = items := by
  cases items with
  | nil => rfl
  | cons v rest => rw [mapItems, mapItems, mapTexts_mapTexts h v, mapItems_mapItems h rest]

theorem mapMembers_mapMembers {f : τ → σ} {g : σ → τ} (h : ∀ s, f (g s) = s)
    (ms : List (σ × JsonOf σ)) : mapMembers f (mapMembers g ms) = ms := by
  cases ms with
  | nil => rfl
  | cons e rest =>
    obtain ⟨key, v⟩ := e
    rw [mapMembers, mapMembers, h, mapTexts_mapTexts h v, mapMembers_mapMembers h rest]

end

/-! ## 3. Values of texts of characters -/

/-- **In a value of texts of characters nothing is replaced.** -/
theorem replaced_raw (v : Json) : v.raw.replaced = v :=
  mapTexts_mapTexts CodePoint.replaced_ofText v

/-- **A value that was read is one of texts of characters exactly if it is such a value as it is
    read.** -/
theorem json?_eq_some_iff {v : RawJson} {w : Json} : v.json? = some w ↔ v = w.raw :=
  mapTexts?_eq_some_iff CodePoint.text?_eq_some_iff v w

theorem json?_raw (v : Json) : v.raw.json? = some v := json?_eq_some_iff.mpr rfl

end JsonOf

end SampleSchema
