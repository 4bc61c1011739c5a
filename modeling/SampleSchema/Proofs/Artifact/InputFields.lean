import SampleSchema.Proofs.Artifact.Keys
import SampleSchema.Proofs.SampleFile.Read
import SampleSchema.Proofs.Scan.Answers

/-!
# Which fields an input type has

Between the samples and an input type fields are dropped at three places: samples behind the limit
are not looked at, reserved keys are passed over, and the input type hides the identity and the time
stamps. Nothing at any of these places asks whether something is left. So an input type can have no
line between its braces, and it is known when: exactly if no document that was looked at has another
key (`FieldModel.input_fields_of_samples`). Its lines are what the API reads as its fields if all
keys are API names; another key may as well be a comment to it. A type without a line is none to the
API. `FieldModel.bare_input` are samples for which there is no line.
-/

namespace SampleSchema

/-! ## 1. Documents that are looked at -/

variable {samples : List Json} {model : FieldModel}

/-- The fields of an input type are those of the model with keys that it does not hide. -/
theorem FieldModel.Outlines.inputFields_eq (hO : FieldModel.Outlines .standard samples model) :
    model.inputFields = model.shownBut (identityName :: timestampNames) :=
  FieldModel.map_toApi_filter (fun _ => hO.name_eq) _

variable {m : Type → Type} [Monad m] [LawfulMonad m] [MonadAttach m] [LawfulMonadAttach m]

end SampleSchema
