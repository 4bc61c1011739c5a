import SampleSchema.Settings
import SampleSchema.Text.DecimalDigit

/-!
# Settings from environment variables

Four variables set the project directory and the numbers of the scan; one that is missing or empty
leaves the default. A number is written as a person writes one: blanks around it, a sign, digits of
any script, single underscores between digits. The numbers are read in order, and the first that is
none ends the reading; only then are their bounds checked, all at once.
-/

namespace SampleSchema

/-! ## 1. Numbers -/

/-- Why the environment gives no settings. -/
inductive EnvironmentFault where
  | notAnInteger (text : String)
  | tooManyDigits (count : Nat)
  | notANumber (text : String)
  | outOfBounds (faults : List Fault)
  deriving DecidableEq, Repr

/-- The text of a fault. A long text is shown in part where an integer is due. -/
def EnvironmentFault.message : EnvironmentFault → String
  | .notAnInteger text =>
    "invalid literal for int() with base 10: " ++ String.ofList ((quoted text).toList.take 200)
  | .tooManyDigits count => tooManyDigitsMessage count
  | .notANumber text => "could not convert string to float: " ++ quoted text
  | .outOfBounds faults => Fault.message faults

namespace Numeral

/-- The same text with digits of any script written in ASCII. -/
def withAsciiDigits (cs : List Char) : List Char :=
  cs.map fun c =>
    match decimalDigit? c with
    | some d => Char.ofNat ('0'.toNat + d)
    | none => c

/-- Does each underscore stand between two digits? `behindDigit` tells what stands before. -/
def underscoresFit (behindDigit : Bool) : List Char → Bool
  | [] => true
  | '_' :: c :: rest => behindDigit && isAsciiDigit c && underscoresFit false (c :: rest)
  | ['_'] => false
  | c :: rest => underscoresFit (isAsciiDigit c) rest

/-- A text without its underscores. -/
def withoutUnderscores (cs : List Char) : List Char := cs.filter (· ≠ '_')

/-- An integer in a variable. Underscores are judged first, then the number of digits, and last
    what stands behind the digits. -/
def ofVariable (text : String) : Except EnvironmentFault Int :=
  let body := trimmed isWhiteSpace (withAsciiDigits text.toList)
  let (negative, body) := match body with
    | '-' :: r => (true, r)
    | '+' :: r => (false, r)
    | r => (false, r)
  let run := body.takeWhile fun c => isAsciiDigit c || c == '_'
  let digits := withoutUnderscores run
  if !underscoresFit false run then .error (.notAnInteger text)
  else if maxDigits < digits.length then .error (.tooManyDigits digits.length)
  else if digits.isEmpty ∨ run.length < body.length then .error (.notAnInteger text)
  else .ok (signed negative (value digits))

/-- A double in a variable. -/
def doubleOfVariable (text : String) : Except EnvironmentFault Double :=
  let body := trimmed isWhiteSpace (withAsciiDigits text.toList)
  if underscoresFit false body then
    match double? (withoutUnderscores body) with
    | some x => .ok x
    | none => .error (.notANumber text)
  else .error (.notANumber text)

end Numeral

/-! ## 2. Variables -/

/-- The environment: names and values. -/
abbrev Environment := List (String × String)

namespace Environment

/-- The value of a variable that is set and not empty, read. -/
def read? {α : Type} (env : Environment) (name : String)
    (read : String → Except EnvironmentFault α) : Except EnvironmentFault (Option α) :=
  match Entries.get? env name with
  | none => .ok none
  | some text => if text.isEmpty then .ok none else (read text).map some

/-- The member of an object that a variable gives, if it gives any. -/
def entry {α : Type} (name : String) (toJson : α → Json) : Option α → List (String × Json)
  | some a => [(name, toJson a)]
  | none => []

/-- **The settings of the scan that the environment gives.** -/
def inference (env : Environment) : Except EnvironmentFault InferenceSettings := do
  let limit ← env.read? "AAPI_SAMPLE_LIMIT" Numeral.ofVariable
  let threshold ← env.read? "AAPI_REQUIRED_THRESHOLD" Numeral.doubleOfVariable
  let valueLimit ← env.read? "AAPI_SAMPLE_VALUE_LIMIT" Numeral.ofVariable
  let members := entry "sample_limit" .int limit ++
    entry "required_threshold" .double threshold ++
    entry "sample_value_limit" .int valueLimit
  match InferenceSettings.check .value (.obj members) with
  | .ok settings => .ok settings
  | .error faults => .error (.outOfBounds faults)

/-- **The settings that the environment gives.** -/
def settings (env : Environment) : Except EnvironmentFault Settings :=
  env.inference.map fun inference =>
    { projectRoot := .ofText ((Entries.get? env "AAPI_PROJECT_ROOT").getD ".")
      inference := inference }

end Environment

end SampleSchema
