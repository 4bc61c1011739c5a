import SampleSchema.Validation.Lenient

/-!
# Checks that are passed

What a record needs to pass its check: each member is there and passes its own. A list passes item
by item. Most statements here are about the JSON form of a value that is checked for just that
value.
-/

namespace SampleSchema.Checked

variable {α β : Type}

/-- A member that is there and passes its check. -/
theorem optional_eq_ok {members : List (String × Json)} {name : String} {v : Json}
    (hget : Entries.get? members name = some v) (default : α) {check : Json → Checked α} {a : α}
    (h : check v = .ok a) : optional members name default check = .ok a := by
  unfold optional
  rw [hget]
  exact inside_eq_ok_iff.mpr h

/-- A member that has to be there, and is. -/
theorem required_of_some {members : List (String × Json)} {name : String} {v : Json}
    (hget : Entries.get? members name = some v) (check : Json → Checked α) :
    required members name check = (check v).inside (.name name) := by
  unfold required
  rw [hget]

/-- A member that has to be there, and is not. -/
theorem required_of_none {members : List (String × Json)} {name : String}
    (hget : Entries.get? members name = none) (check : Json → Checked α) :
    required members name check = .error [⟨[.name name], .missing⟩] := by
  unfold required
  rw [hget]
  rfl

/-- Checks that each give their value back are passed together. -/
theorem all_map_self {check : α → Checked α} (h : ∀ a, check a = .ok a) (as : List α) :
    all (as.map check) = .ok as := by
  induction as with
  | nil => rfl
  | cons a rest ih =>
    rw [List.map_cons, all, h a, ih]
    rfl

/-- **A list of JSON forms is checked for the list of their values.** -/
theorem all_items_map {check : Json → Checked α} (form : α → Json)
    (h : ∀ a, check (form a) = .ok a) (start : Nat) (as : List α) :
    all (items check start (as.map form)) = .ok as := by
  induction as generalizing start with
  | nil => rfl
  | cons a rest ih =>
    rw [List.map_cons, items, all, ih, h a]
    rfl

/-- A count that is large enough. -/
theorem natural_int {least n : Nat} (h : least ≤ n) : natural least (.int n) = .ok ⟨n, h⟩ := by
  have hle : (least : Int) ≤ n := Int.ofNat_le.mpr h
  simp [natural, integer, hle]

end SampleSchema.Checked
