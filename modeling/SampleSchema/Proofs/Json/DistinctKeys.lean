import SampleSchema.Proofs.Json.Characters
import SampleSchema.Proofs.Json.Parts

/-!
# The keys of an object are distinct

A value is a DICTIONARY THROUGHOUT if each of its objects, at any depth, holds each key once. Every
value that is read from a text is one (`Json.isDictionary_of_read`), also where the text repeats a
key, as the reader puts the members of an object one after the other.
-/

namespace SampleSchema

/-- **Each object of a value holds each key once**, at any depth. -/
inductive JsonOf.IsDictionary {τ : Type} : JsonOf τ → Prop where
  | null : IsDictionary .null
  | bool (b : Bool) : IsDictionary (.bool b)
  | int (z : Int) : IsDictionary (.int z)
  | double (x : Double) : IsDictionary (.double x)
  | str (s : τ) : IsDictionary (.str s)
  | arr {items : List (JsonOf τ)} (h : ∀ v ∈ items, IsDictionary v) : IsDictionary (.arr items)
  | obj {ms : List (τ × JsonOf τ)} (hkeys : (Entries.keys ms).Nodup)
      (h : ∀ e ∈ ms, IsDictionary e.2) : IsDictionary (.obj ms)

namespace Reader

/-! ## 1. Values without parts -/

theorem isDictionary_of_spellsNumber {cs : List Char} {v : RawJson} (h : SpellsNumber cs v) :
    v.IsDictionary := by
  cases h with
  | int => exact .int _
  | fraction => exact .double _
  | exponent => exact .double _

theorem isDictionary_of_atom {cs rest : List Char} {v : RawJson} (h : atom cs = .ok (v, rest)) :
    v.IsDictionary := by
  have hwords : ∀ w ∈ words, w.2.IsDictionary :=
    words_cases .null (.bool true) (.bool false) (.double _) (.double _) (.double _)
  obtain ⟨body, _, hword | hnumber⟩ := exists_of_atom h
  · exact hwords _ hword
  · exact isDictionary_of_spellsNumber hnumber

/-! ## 2. Values with parts -/

/-- A member that is put among others leaves a dictionary. -/
theorem isDictionary_of_mem_put {read : List (RawText × RawJson)} {v : RawJson}
    (hread : ∀ e ∈ read, e.2.IsDictionary) (hv : v.IsDictionary) (key : RawText) :
    ∀ e ∈ Entries.put read key v, e.2.IsDictionary := by
  induction read with
  | nil =>
    intro e he
    rw [List.mem_singleton.mp he]
    exact hv
  | cons first read ih =>
    obtain ⟨k, u⟩ := first
    have hrest := fun e he => hread e (List.mem_cons_of_mem _ he)
    intro e he
    unfold Entries.put at he
    split at he
    · rcases List.mem_cons.mp he with rfl | he
      · exact hv
      · exact hrest e he
    · rcases List.mem_cons.mp he with rfl | he
      · exact hread _ List.mem_cons_self
      · exact ih hrest e he

/-- What the reader gives with so much fuel are dictionaries. -/
structure ReadsDictionaries (fuel : Nat) : Prop where
  value : ∀ {cs v rest}, value fuel cs = .ok (v, rest) → v.IsDictionary
  elements : ∀ {read cs v rest}, (∀ u ∈ read, u.IsDictionary) →
    elements fuel read cs = .ok (v, rest) → v.IsDictionary
  objectRest : ∀ {read cs v rest}, (Entries.keys read).Nodup → (∀ e ∈ read, e.2.IsDictionary) →
    objectRest fuel read cs = .ok (v, rest) → v.IsDictionary

theorem readsDictionaries_zero : ReadsDictionaries 0 where
  value h := by cases h
  elements _ h := by cases h
  objectRest _ _ h := by cases h

section Step

variable {fuel : Nat} (ih : ReadsDictionaries fuel)
include ih

theorem isDictionary_of_value {cs rest : List Char} {v : RawJson}
    (h : value (fuel + 1) cs = .ok (v, rest)) : v.IsDictionary := by
  have hempty : (Entries.keys ([] : List (RawText × RawJson))).Nodup := List.nodup_nil
  have hstep := valueStep fuel cs
  rw [h] at hstep
  cases hstep with
  | string => exact .str _
  | emptyArray => exact .arr fun u hu => (by cases hu)
  | array _ hrest => exact ih.elements (fun u hu => (by cases hu)) hrest
  | emptyObject => exact .obj hempty fun e he => (by cases he)
  | object _ hrest => exact ih.objectRest hempty (fun e he => (by cases he)) hrest
  | atom hatom => exact isDictionary_of_atom hatom

theorem isDictionary_of_elements {read : List RawJson} {cs rest : List Char} {v : RawJson}
    (hread : ∀ u ∈ read, u.IsDictionary) (h : elements (fuel + 1) read cs = .ok (v, rest)) :
    v.IsDictionary := by
  have hmore : ∀ {u : RawJson}, u.IsDictionary → ∀ w ∈ u :: read, w.IsDictionary := by
    intro u hu w hw
    rcases List.mem_cons.mp hw with rfl | hw
    · exact hu
    · exact hread w hw
  have hstep := elementsStep fuel read cs
  rw [h] at hstep
  cases hstep with
  | lastItem hvalue => exact .arr fun w hw => hmore (ih.value hvalue) w (List.mem_reverse.mp hw)
  | item hvalue _ _ hrest => exact ih.elements (hmore (ih.value hvalue)) hrest

theorem isDictionary_of_objectRest {read : List (RawText × RawJson)} {cs rest : List Char} {v : RawJson}
    (hkeys : (Entries.keys read).Nodup) (hread : ∀ e ∈ read, e.2.IsDictionary)
    (h : objectRest (fuel + 1) read cs = .ok (v, rest)) : v.IsDictionary := by
  have hstep := membersStep fuel read cs
  rw [h] at hstep
  cases hstep with
  | lastMember _ _ _ hvalue =>
    exact .obj (Entries.nodup_keys_put hkeys _ _) (isDictionary_of_mem_put hread (ih.value hvalue) _)
  | member _ _ _ hvalue _ _ hrest =>
    exact ih.objectRest (Entries.nodup_keys_put hkeys _ _)
      (isDictionary_of_mem_put hread (ih.value hvalue) _) hrest

end Step

/-- **Whatever the fuel, the reader gives dictionaries.** -/
theorem readsDictionaries (fuel : Nat) : ReadsDictionaries fuel := by
  induction fuel with
  | zero => exact readsDictionaries_zero
  | succ fuel ih =>
    exact ⟨isDictionary_of_value ih, isDictionary_of_elements ih, isDictionary_of_objectRest ih⟩

theorem isDictionary_of_document {cs : List Char} {v : RawJson} (h : document cs = .ok v) :
    v.IsDictionary := by
  have hwhole : ∀ {cs}, document.whole cs = .ok v → v.IsDictionary := by
    intro cs h
    unfold document.whole at h
    split at h
    · cases h
    · rename_i u rest hvalue
      split at h
      · cases h
        exact (readsDictionaries _).value hvalue
      · cases h
  unfold document at h
  split at h
  · split at h
    · cases h
    · exact hwhole h
  · exact hwhole h

end Reader

/-- A value is a dictionary throughout if it is one as it is read. -/
theorem JsonOf.isDictionary_of_raw {u : RawJson} (h : u.IsDictionary) :
    ∀ {v : Json}, u = v.raw → v.IsDictionary := by
  induction h with
  | null =>
    rintro (_ | _ | _ | _ | _ | _ | _) hv <;> cases hv
    exact .null
  | bool b =>
    rintro (_ | _ | _ | _ | _ | _ | _) hv <;> cases hv
    exact .bool b
  | int z =>
    rintro (_ | _ | _ | _ | _ | _ | _) hv <;> cases hv
    exact .int z
  | double x =>
    rintro (_ | _ | _ | _ | _ | _ | _) hv <;> cases hv
    exact .double x
  | str s =>
    rintro (_ | _ | _ | _ | text | _ | _) hv <;> cases hv
    exact .str text
  | arr hitems ih =>
    rintro (_ | _ | _ | _ | _ | items | _) hv <;> cases hv
    refine .arr fun v hv => ih v.raw ?_ rfl
    rw [mapItems_eq]
    exact List.mem_map_of_mem hv
  | obj hkeys hms ih =>
    rintro (_ | _ | _ | _ | _ | _ | ms) hv <;> cases hv
    rw [keys_mapMembers] at hkeys
    have hdistinct : (Entries.keys ms).Nodup :=
      List.Pairwise.of_map CodePoint.ofText (fun _ _ hne h => hne (congrArg _ h)) hkeys
    refine .obj hdistinct fun e he => ih (CodePoint.ofText e.1, e.2.raw) ?_ rfl
    rw [mapMembers_eq]
    exact List.mem_map_of_mem he

theorem RawJson.isDictionary_of_read {cs : List Char} {v : RawJson} (h : RawJson.read cs = .ok v) :
    v.IsDictionary := by
  unfold RawJson.read at h
  split at h
  · rename_i u hdocument
    cases h
    exact Reader.isDictionary_of_document hdocument
  · cases h

/-- **Every value that a text denotes is a dictionary throughout.** -/
theorem Json.isDictionary_of_read {cs : List Char} {v : Json} (h : Json.read cs = .ok v) :
    v.IsDictionary := by
  unfold Json.read at h
  split at h
  · cases h
  · rename_i u hread
    split at h
    · rename_i w hw
      cases h
      have hraw := RawJson.isDictionary_of_read hread
      exact JsonOf.isDictionary_of_raw hraw (JsonOf.json?_eq_some_iff.mp hw)
    · cases h

end SampleSchema
