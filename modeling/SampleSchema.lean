import SampleSchema.FieldModel.Record
import SampleSchema.Main
import SampleSchema.Template
import SampleSchema.Proofs.Scan.Observations
import SampleSchema.Proofs.Scan.Steps
import SampleSchema.Proofs.Scan.FieldWise
import SampleSchema.Proofs.FieldType.Join
import SampleSchema.Proofs.Scan.Conflicts
import SampleSchema.Proofs.Scan.Batches
import SampleSchema.Proofs.FieldType.Spelling
import SampleSchema.Proofs.Artifact.Reader
import SampleSchema.Proofs.Artifact.ReadBack
import SampleSchema.Proofs.Json.DistinctKeys
import SampleSchema.Proofs.Json.Characters
import SampleSchema.Proofs.Scan.Answers
import SampleSchema.Proofs.FileTree.Written
import SampleSchema.Proofs.FileTree.RawText
import SampleSchema.Proofs.Project.Writing
import SampleSchema.Proofs.Console.Literal
import SampleSchema.Proofs.Console.Printed
import SampleSchema.Proofs.Program.Outcome
import SampleSchema.Proofs.Program.Effect
import SampleSchema.Proofs.Json.Grammar
import SampleSchema.Proofs.Json.Strings
import SampleSchema.Proofs.Json.Numbers
import SampleSchema.Proofs.Json.Reading
import SampleSchema.Proofs.SampleFile.Read
import SampleSchema.Proofs.Program.Preview
import SampleSchema.Proofs.Project.Refusal
import SampleSchema.Proofs.Artifact.Operations
import SampleSchema.Proofs.Artifact.Members
import SampleSchema.Proofs.FileTree.Making
import SampleSchema.Proofs.Project.Answers
import SampleSchema.Proofs.Project.Commuting
import SampleSchema.Proofs.Number.Decimals
import SampleSchema.Proofs.Json.TooManyDigits
import SampleSchema.Proofs.Number.Spelled
import SampleSchema.Proofs.Json.Written
import SampleSchema.Proofs.Text.Utf8
import SampleSchema.Proofs.Validation.Checked
import SampleSchema.Proofs.Settings.SaveLoad
import SampleSchema.Proofs.Scan.Reserving
import SampleSchema.Proofs.Number.Order
import SampleSchema.Proofs.Scan.Required
import SampleSchema.Proofs.Scan.Evidence
import SampleSchema.Proofs.FieldType.Record
import SampleSchema.Proofs.FieldModel.Record
import SampleSchema.Proofs.Scan.Outline
import SampleSchema.Proofs.Scan.Extending
import SampleSchema.Proofs.Artifact.Distinct
import SampleSchema.Proofs.Artifact.References
import SampleSchema.Proofs.Script.Token
import SampleSchema.Proofs.Script.Pieces
import SampleSchema.Proofs.Script.Literal
import SampleSchema.Proofs.Artifact.Definitions
import SampleSchema.Proofs.Artifact.Keys
import SampleSchema.Proofs.Script.Syntax
import SampleSchema.Proofs.Artifact.Hygiene
import SampleSchema.Proofs.Artifact.BindingNames
import SampleSchema.Proofs.Artifact.SchemaNames
import SampleSchema.Proofs.Path.Normal
import SampleSchema.Proofs.Project.ImportedModel
import SampleSchema.Proofs.FieldType.HeadSpine
import SampleSchema.Proofs.FieldType.SpelledAlike
import SampleSchema.Proofs.Scan.RequiredMonotone
import SampleSchema.Proofs.Artifact.Entities
import SampleSchema.Proofs.Text.Words
import SampleSchema.Proofs.Text.Case
import SampleSchema.Proofs.Naming.WordCase
import SampleSchema.Proofs.Naming.Derived
import SampleSchema.Proofs.Artifact.InputFields
import SampleSchema.Proofs.Console.Shown
import SampleSchema.Proofs.Console.Fitted
import SampleSchema.Proofs.Console.Emoji
import SampleSchema.Proofs.Console.UserText
import SampleSchema.Proofs.Scan.InStep
