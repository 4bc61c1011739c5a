import SampleSchema.FieldType

/-!
# Merging the types of one field

A field that is met again has a type already, the EXISTING one, and gets a second, the OBSERVED one.
A merge strategy says what the field's type is then. The observed type conflicts with the existing
one if the two differ and neither is `unknown` (`FieldType.combine?`). Three strategies:

* `keepFirst`: the type never changes;
* `widen`: a conflict makes the type `mixed`;
* `reject`: a conflict ends the scan.

A strategy may have effects, so that one that records its calls is a strategy as well.
-/

namespace SampleSchema

/-- How the type of a field changes: field name, existing type, observed type. -/
abbrev MergeStrategy (m : Type → Type) := String → FieldType → FieldType → m FieldType

/-- Two samples disagree on the type of a field. -/
structure TypeConflict where
  field : String
  existing : FieldType
  observed : FieldType
  deriving DecidableEq, Repr

/-- The text of a conflict, in the spellings of the API schema. -/
def TypeConflict.message (c : TypeConflict) : String :=
  "Conflicting types for field '" ++ c.field ++ "': " ++ c.existing.api ++ " vs " ++ c.observed.api

/-- The one type that two agree on: the more informative one, if they do not conflict. -/
def FieldType.combine? (existing observed : FieldType) : Option FieldType :=
  if observed = .unknown ∨ existing = observed then some existing
  else if existing = .unknown then some observed
  else none

/-- The type that holds for both: `mixed` in a conflict. -/
def FieldType.join (existing observed : FieldType) : FieldType :=
  (existing.combine? observed).getD .mixed

/-- The type first seen stays. -/
def keepFirst {m : Type → Type} [Monad m] : MergeStrategy m :=
  fun _ existing _ => pure existing

/-- A conflict widens the type to `mixed`. -/
def widen {m : Type → Type} [Monad m] : MergeStrategy m :=
  fun _ existing observed => pure (existing.join observed)

/-- A conflict is an error. -/
def reject : MergeStrategy (Except TypeConflict) :=
  fun field existing observed =>
    match existing.combine? observed with
    | some t => .ok t
    | none => .error ⟨field, existing, observed⟩

end SampleSchema
