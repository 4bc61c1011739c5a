/-!
# Dictionaries in insertion order

A dictionary is the list of its entries, each key once, in the order in which the keys were first
put. Putting a key again changes its value where it stands. The operations are total on all lists
of pairs; `Entries.put` keeps the keys distinct (`nodup_keys_put`), and every dictionary here is
built by it.
-/

namespace SampleSchema.Entries

variable {κ α : Type} [DecidableEq κ]

/-- The keys, in order. -/
def keys (entries : List (κ × α)) : List κ := entries.map (·.1)

/-- The value of a key. -/
def get? (entries : List (κ × α)) (key : κ) : Option α :=
  match entries with
  | [] => none
  | (k, v) :: rest => if k = key then some v else get? rest key

/-- The entries with one value set: in its place if the key is there, else at the end. -/
def put (entries : List (κ × α)) (key : κ) (value : α) : List (κ × α) :=
  match entries with
  | [] => [(key, value)]
  | (k, v) :: rest => if k = key then (k, value) :: rest else (k, v) :: put rest key value

/-- A dictionary from pairs, put one after the other. -/
def ofPairs (pairs : List (κ × α)) : List (κ × α) :=
  pairs.foldl (fun d p => put d p.1 p.2) []

/-- The entries without one key. -/
def erase (entries : List (κ × α)) (key : κ) : List (κ × α) :=
  entries.filter (·.1 ≠ key)

theorem get?_put_self (entries : List (κ × α)) (key : κ) (value : α) :
    get? (put entries key value) key = some value := by
  induction entries with
  | nil => simp [put, get?]
  | cons e rest ih =>
    obtain ⟨k, v⟩ := e
    by_cases h : k = key <;> simp [put, get?, h, ih]

theorem get?_put_of_ne (entries : List (κ × α)) {key other : κ} (value : α)
    (h : other ≠ key) : get? (put entries key value) other = get? entries other := by
  induction entries with
  | nil => simp [put, get?, Ne.symm h]
  | cons e rest ih =>
    obtain ⟨k, v⟩ := e
    by_cases hk : k = key
    · subst hk
      simp [put, get?, Ne.symm h]
    · simp [put, get?, hk, ih]

theorem get?_eq_none_iff (entries : List (κ × α)) (key : κ) :
    get? entries key = none ↔ key ∉ keys entries := by
  induction entries with
  | nil => simp [get?, keys]
  | cons e rest ih =>
    obtain ⟨k, v⟩ := e
    by_cases hk : k = key
    · simp [get?, keys, hk]
    · simp [get?, keys, hk, Ne.symm hk] at ih ⊢
      exact ih

theorem mem_keys_of_get? {entries : List (κ × α)} {key : κ} {value : α}
    (h : get? entries key = some value) : key ∈ keys entries := by
  refine Classical.byContradiction fun hk => ?_
  rw [(get?_eq_none_iff entries key).mpr hk] at h
  cases h

theorem get?_erase_self (entries : List (κ × α)) (key : κ) :
    get? (erase entries key) key = none := by
  rw [get?_eq_none_iff]
  simp [keys, erase]

theorem get?_erase_of_ne (entries : List (κ × α)) {key other : κ} (h : other ≠ key) :
    get? (erase entries key) other = get? entries other := by
  induction entries with
  | nil => rfl
  | cons e rest ih =>
    obtain ⟨k, v⟩ := e
    by_cases hk : k = key
    · subst hk
      rw [show erase ((k, v) :: rest) k = erase rest k by simp [erase], ih]
      simp [get?, Ne.symm h]
    · rw [show erase ((k, v) :: rest) key = (k, v) :: erase rest key by simp [erase, hk]]
      simp [get?, ih]

theorem keys_put (entries : List (κ × α)) (key : κ) (value : α) :
    keys (put entries key value) =
      if key ∈ keys entries then keys entries else keys entries ++ [key] := by
  induction entries with
  | nil => simp [put, keys]
  | cons e rest ih =>
    obtain ⟨k, v⟩ := e
    by_cases hk : k = key
    · simp [put, keys, hk]
    · by_cases hm : key ∈ keys rest
      · simp_all [put, keys]
      · simp_all [put, keys, Ne.symm hk]

/-- **Putting keeps the keys distinct.** -/
theorem nodup_keys_put {entries : List (κ × α)} (h : (keys entries).Nodup) (key : κ)
    (value : α) : (keys (put entries key value)).Nodup := by
  rw [keys_put]
  split
  · exact h
  · rename_i hk
    rw [List.nodup_append]
    refine ⟨h, by simp, ?_⟩
    intro a ha b hb hab
    simp only [List.mem_singleton] at hb
    exact hk (hb ▸ hab ▸ ha)

/-- A new key is put at the end. -/
theorem put_of_not_mem {entries : List (κ × α)} {key : κ} (h : key ∉ keys entries) (value : α) :
    put entries key value = entries ++ [(key, value)] := by
  induction entries with
  | nil => rfl
  | cons e rest ih =>
    obtain ⟨k, v⟩ := e
    have hk : k ≠ key := fun hk => h (hk ▸ List.mem_cons_self)
    rw [put, if_neg hk, ih fun hrest => h (List.mem_cons_of_mem _ hrest)]
    rfl

/-- A value that is put where it stands changes nothing. -/
theorem put_of_get? {entries : List (κ × α)} {key : κ} {value : α}
    (h : get? entries key = some value) : put entries key value = entries := by
  induction entries with
  | nil => cases h
  | cons e rest ih =>
    obtain ⟨k, v⟩ := e
    unfold get? at h
    unfold put
    by_cases hk : k = key
    · rw [if_pos hk] at h ⊢
      rw [Option.some.inj h]
    · rw [if_neg hk] at h ⊢
      rw [ih h]

/-- Of two values that are put for one key the second stays. -/
theorem put_put (entries : List (κ × α)) (key : κ) (value value' : α) :
    put (put entries key value) key value' = put entries key value' := by
  induction entries with
  | nil => simp [put]
  | cons e rest ih =>
    obtain ⟨k, v⟩ := e
    by_cases hk : k = key <;> simp [put, hk, ih]

/-- **Pairs with distinct keys are a dictionary already.** -/
theorem ofPairs_of_nodup {pairs : List (κ × α)} (h : (keys pairs).Nodup) : ofPairs pairs = pairs := by
  have hfrom : ∀ (before pairs : List (κ × α)), (keys (before ++ pairs)).Nodup →
      pairs.foldl (fun d p => put d p.1 p.2) before = before ++ pairs := by
    intro before pairs h
    induction pairs generalizing before with
    | nil => exact (List.append_nil before).symm
    | cons e rest ih =>
      have hkeys : keys (before ++ e :: rest) = keys before ++ e.1 :: keys rest := List.map_append
      have hnew : e.1 ∉ keys before := fun hmem => by
        rw [hkeys] at h
        exact (List.nodup_append.mp h).2.2 _ hmem _ List.mem_cons_self rfl
      have hmore : before ++ e :: rest = before ++ [e] ++ rest := by simp
      rw [List.foldl_cons, put_of_not_mem hnew, hmore]
      exact ih _ (hmore ▸ h)
  exact hfrom [] pairs h

/-- Where the keys are distinct, a key has the value of its entry. -/
theorem get?_eq_some_iff {entries : List (κ × α)} (h : (keys entries).Nodup) (key : κ)
    (value : α) : get? entries key = some value ↔ (key, value) ∈ entries := by
  induction entries with
  | nil => simp [get?]
  | cons e rest ih =>
    obtain ⟨k, v⟩ := e
    obtain ⟨hk, hrest⟩ := List.nodup_cons.mp h
    by_cases hkey : k = key
    · subst hkey
      have hnot : (k, value) ∉ rest := fun hmem =>
        hk (List.mem_map.mpr ⟨(k, value), hmem, rfl⟩)
      simp [get?, hnot, eq_comm]
    · simp [get?, hkey, Ne.symm hkey, ih hrest]

/-- **A key has one entry.** -/
theorem filter_eq_singleton {entries : List (κ × α)} (h : (keys entries).Nodup) {key : κ}
    {value : α} (hget : get? entries key = some value) :
    entries.filter (fun e => e.1 = key) = [(key, value)] := by
  induction entries with
  | nil => cases hget
  | cons e rest ih =>
    obtain ⟨k, v⟩ := e
    obtain ⟨hk, hrest⟩ := List.nodup_cons.mp h
    by_cases hkey : k = key
    · subst hkey
      have hnone : rest.filter (fun e => e.1 = k) = [] := by
        refine List.filter_eq_nil_iff.mpr fun e he => ?_
        simpa using fun heq => hk (List.mem_map.mpr ⟨e, he, heq⟩)
      rw [get?, if_pos rfl] at hget
      rw [List.filter_cons_of_pos (by simp), hnone, Option.some.inj hget]
    · rw [get?, if_neg hkey] at hget
      rw [List.filter_cons_of_neg (by simpa using hkey), ih hrest hget]

omit [DecidableEq κ] in
theorem keys_map {β : Type} (f : κ → α → β) (entries : List (κ × α)) :
    keys (entries.map fun e => (e.1, f e.1 e.2)) = keys entries := by
  unfold keys
  rw [List.map_map]
  rfl

theorem get?_map {β : Type} (f : κ → α → β) (entries : List (κ × α)) (key : κ) :
    get? (entries.map fun e => (e.1, f e.1 e.2)) key = (get? entries key).map (f key) := by
  induction entries with
  | nil => rfl
  | cons e rest ih =>
    obtain ⟨k, v⟩ := e
    by_cases hk : k = key
    · subst hk
      simp [get?]
    · simp only [List.map_cons, get?, if_neg hk]
      exact ih

theorem put_map {β : Type} (f : α → β) (entries : List (κ × α)) (key : κ) (value : α) :
    put (entries.map fun e => (e.1, f e.2)) key (f value) =
      (put entries key value).map fun e => (e.1, f e.2) := by
  induction entries with
  | nil => rfl
  | cons e rest ih =>
    obtain ⟨k, v⟩ := e
    by_cases hk : k = key
    · simp [put, hk]
    · simp [put, hk, ih]

section Filter

variable {keep : κ → Bool} {key : κ}

/-- A key that is kept has its value still. -/
theorem get?_filter (h : keep key = true) (entries : List (κ × α)) :
    get? (entries.filter fun e => keep e.1) key = get? entries key := by
  induction entries with
  | nil => rfl
  | cons e rest ih =>
    obtain ⟨k, v⟩ := e
    by_cases hk : k = key
    · subst hk
      simp [get?, h]
    · cases hkeep : keep k <;> simp [get?, hk, hkeep, ih]

/-- A key that is kept is put where it was put before. -/
theorem put_filter (h : keep key = true) (entries : List (κ × α)) (value : α) :
    put (entries.filter fun e => keep e.1) key value =
      (put entries key value).filter fun e => keep e.1 := by
  induction entries with
  | nil => simp [put, h]
  | cons e rest ih =>
    obtain ⟨k, v⟩ := e
    by_cases hk : k = key
    · subst hk
      simp [put, h]
    · cases hkeep : keep k <;> simp [put, hk, hkeep, ih]

/-- A key that is not kept is put for nothing. -/
theorem filter_put_of_false (h : keep key = false) (entries : List (κ × α)) (value : α) :
    (put entries key value).filter (fun e => keep e.1) = entries.filter fun e => keep e.1 := by
  induction entries with
  | nil => simp [put, h]
  | cons e rest ih =>
    obtain ⟨k, v⟩ := e
    by_cases hk : k = key
    · subst hk
      simp [put, h]
    · cases hkeep : keep k <;> simp [put, hk, hkeep, ih]

end Filter

/-- A dictionary is known by its keys and the value of each. -/
theorem eq_map_keys {entries : List (κ × α)} (h : (keys entries).Nodup) (f : κ → α)
    (hf : ∀ key v, get? entries key = some v → v = f key) :
    entries = (keys entries).map fun key => (key, f key) := by
  induction entries with
  | nil => rfl
  | cons e rest ih =>
    obtain ⟨k, v⟩ := e
    obtain ⟨hk, hrest⟩ := List.nodup_cons.mp h
    have hv : v = f k := hf k v (by simp [get?])
    have hr : rest = (keys rest).map fun key => (key, f key) := by
      refine ih hrest fun key w hw => hf key w ?_
      have hne : k ≠ key := by
        intro e
        rw [← e] at hw
        rw [(get?_eq_none_iff rest k).mpr hk] at hw
        cases hw
      simp only [get?, if_neg hne]
      exact hw
    subst hv
    show (k, f k) :: rest = (k, f k) :: (keys rest).map fun key => (key, f key)
    rw [← hr]

end SampleSchema.Entries
