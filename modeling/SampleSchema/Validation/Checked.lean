import SampleSchema.Json.Value
import SampleSchema.Validation.Fault

/-!
# Values with all their faults

A check gives a value or the faults that it found. The parts of a record are checked
side by side: the faults of all parts are collected, in the order of the parts
(`Checked.both`), and each one is placed where its part stands (`Checked.inside`).
-/

namespace SampleSchema

/-- Where a checked value comes from: it was read before, or it is read and checked in one go. -/
inductive Source where
  | value
  | text

/-- A checked value, or its faults. -/
abbrev Checked (α : Type) := Except (List Fault) α

namespace Checked

variable {α β : Type}

/-- A single fault in the value at hand. -/
def fault (cause : Cause) : Checked α := .error [⟨[], cause⟩]

/-- The faults, seen from one level further out. -/
def inside (step : LocationStep) : Checked α → Checked α
  | .ok a => .ok a
  | .error faults => .error (faults.map fun f => { f with location := step :: f.location })

/-- Two parts of a record; the faults of both are kept. -/
def both : Checked α → Checked β → Checked (α × β)
  | .ok a, .ok b => .ok (a, b)
  | .ok _, .error faults => .error faults
  | .error faults, .ok _ => .error faults
  | .error first, .error second => .error (first ++ second)

/-- All parts of a list, in order. -/
def all : List (Checked α) → Checked (List α)
  | [] => .ok []
  | first :: rest => (both first (all rest)).map fun (a, as) => a :: as

/-- The items of an array, each checked at its place, which counts from `start`. -/
def items (check : Json → Checked α) (start : Nat) : List Json → List (Checked α)
  | [] => []
  | v :: rest => (check v).inside (.index start) :: items check (start + 1) rest

/-- The member of an object, or a fault if it is not there. -/
def required (members : List (String × Json)) (name : String) (check : Json → Checked α) :
    Checked α :=
  match Entries.get? members name with
  | some v => (check v).inside (.name name)
  | none => (fault .missing).inside (.name name)

/-- The member of an object, or a default if it is not there. -/
def optional (members : List (String × Json)) (name : String) (default : α)
    (check : Json → Checked α) : Checked α :=
  match Entries.get? members name with
  | some v => (check v).inside (.name name)
  | none => .ok default

/-- **An attribute of a record, assigned.** Records are frozen: whatever the attribute and the value,
    the record stays as it is. -/
def assign (_record : α) (name : String) (_value : Json) : Checked α :=
  (fault .frozen).inside (.name name)

theorem inside_eq_ok_iff {step : LocationStep} {x : Checked α} {a : α} :
    x.inside step = .ok a ↔ x = .ok a := by
  cases x <;> simp [inside]

end Checked

end SampleSchema
