import RuleSchema.Text.Blank
import RuleSchema.Text.Digit
import RuleSchema.Text.LetterCase
import RuleSchema.Text.Printable
import RuleSchema.Text.Search
import RuleSchema.Text.WordChar
import RuleSchema.Number.Notation
import RuleSchema.Number.Numeral
import RuleSchema.Text.Quoted
import RuleSchema.Text.Utf8
import RuleSchema.Value.Entries
import RuleSchema.Json.Canonical
import RuleSchema.Value.Sameness
import RuleSchema.Text.Luhn
import RuleSchema.Text.Packed
import RuleSchema.Text.Decomposition
import RuleSchema.Text.Composition
import RuleSchema.Text.Direction
import RuleSchema.Text.Joining
import RuleSchema.Text.Padding
import RuleSchema.Payload.Error
import RuleSchema.Schema.Merge
import RuleSchema.Rule.Strictness
import RuleSchema.Json.Reader
import RuleSchema.Rule.Shorthand
import RuleSchema.Pattern.Matcher
import RuleSchema.Pattern.Parser
import RuleSchema.Pattern.Basic
import RuleSchema.Pattern.Literal
import RuleSchema.Rule.Source
import RuleSchema.Rule.Fields
import RuleSchema.Rule.Normalize
import RuleSchema.Stage.Basic
import RuleSchema.Validator.Basic
import RuleSchema.Json.Form
import RuleSchema.Stage.Shape
import RuleSchema.Instant.Reader
import RuleSchema.Format.Uuid
import RuleSchema.Host.Address
import RuleSchema.Format.Url
import RuleSchema.Format.Email
import RuleSchema.Host.AddressProblem
import RuleSchema.Host.LabelAlphabet
import RuleSchema.Host.Punycode
import RuleSchema.Host.Label
import RuleSchema.Host.Mapping
import RuleSchema.Host.Domain
import RuleSchema.Compile.Text
import RuleSchema.Compile.Scalar
import RuleSchema.Compile.Composite
import RuleSchema.Compile.Basic
import RuleSchema.Signature.Basic
import RuleSchema.Signature.Compiler
import RuleSchema.Signature.Export
import RuleSchema.Tool.Description
import RuleSchema.Metrics.Basic
import RuleSchema.Catalog.Basic
import RuleSchema.Log.Level
import RuleSchema.Settings.Basic
import RuleSchema.Log.Template
import RuleSchema.Instant.Moment
import RuleSchema.Log.Record
import RuleSchema.Command.Listing
import RuleSchema.Command.Arguments
import RuleSchema.Main
import RuleSchema.Proofs.Evaluation
import RuleSchema.Proofs.Text.LetterCase
import RuleSchema.Proofs.Rule.Induction
import RuleSchema.Proofs.Compile.Inheritance
import RuleSchema.Proofs.Compile.Stages
import RuleSchema.Proofs.Validator.Runs
import RuleSchema.Proofs.Validator.Own
import RuleSchema.Proofs.Validator.Scalar
import RuleSchema.Proofs.Absence.Fullness
import RuleSchema.Proofs.Signature.Compiled
import RuleSchema.Proofs.Absence.Escape
import RuleSchema.Proofs.Schema.Names
import RuleSchema.Proofs.Schema.Joining
import RuleSchema.Proofs.Export.Keywords
import RuleSchema.Proofs.Schema.Growth
import RuleSchema.Proofs.Number.Exact
import RuleSchema.Proofs.Export.Arrays
import RuleSchema.Proofs.Export.Choices
import RuleSchema.Proofs.Export.Repeated
import RuleSchema.Proofs.Signature.Uses
import RuleSchema.Proofs.Signature.Kept
import RuleSchema.Proofs.Number.Whole
import RuleSchema.Proofs.Schema.Conjunction
import RuleSchema.Proofs.Pattern.Meaning
import RuleSchema.Proofs.Pattern.Languages
import RuleSchema.Proofs.Pattern.Reader
import RuleSchema.Proofs.Pattern.Texts
import RuleSchema.Proofs.Agreement.Checks
import RuleSchema.Proofs.Agreement.Rules
import RuleSchema.Proofs.Agreement.Signatures
import RuleSchema.Proofs.Agreement.Null
import RuleSchema.Proofs.Calls.Needs
import RuleSchema.Proofs.Signature.Isolation
import RuleSchema.Proofs.Calls.Generators
import RuleSchema.Proofs.Signature.Required
import RuleSchema.Proofs.Catalog.Rebuild
import RuleSchema.Proofs.Catalog.Alone
import RuleSchema.Proofs.Catalog.Settled
import RuleSchema.Proofs.Catalog.Counting
import RuleSchema.Proofs.Catalog.Reordered
import RuleSchema.Proofs.Catalog.Asking
import RuleSchema.Proofs.Catalog.History
import RuleSchema.Proofs.Order.Entries
import RuleSchema.Proofs.Order.Values
import RuleSchema.Proofs.Order.Fields
import RuleSchema.Proofs.Order.Rules
import RuleSchema.Proofs.Order.Normalize
import RuleSchema.Proofs.Order.Schemas
import RuleSchema.Proofs.Order.Compile
import RuleSchema.Proofs.Order.Signatures
import RuleSchema.Proofs.Order.Catalogs
import RuleSchema.Proofs.Validator.Declared
import RuleSchema.Proofs.Projection.Stages
import RuleSchema.Proofs.Projection.Rules
import RuleSchema.Proofs.Value.Document
import RuleSchema.Proofs.Projection.Unchanged
import RuleSchema.Proofs.Location.Rejections
import RuleSchema.Proofs.Location.Rules
import RuleSchema.Proofs.Location.Signatures
import RuleSchema.Proofs.Rule.Shorthand
import RuleSchema.Proofs.Catalog.Wrapping
import RuleSchema.Proofs.Validator.UnknownKeys
import RuleSchema.Proofs.Validator.Presence
import RuleSchema.Proofs.Number.Constraints
import RuleSchema.Proofs.Compile.Unique
import RuleSchema.Proofs.Validator.Alike
import RuleSchema.Proofs.Union.Choice
import RuleSchema.Proofs.Union.Rearranged
import RuleSchema.Proofs.Pattern.Classes
import RuleSchema.Proofs.Text.Search
import RuleSchema.Proofs.Pattern.Amounts
import RuleSchema.Proofs.Validator.Texts
import RuleSchema.Proofs.Text.Constraints
import RuleSchema.Proofs.Text.Hardware
import RuleSchema.Proofs.Text.Amounts
import RuleSchema.Proofs.Number.Numerals
import RuleSchema.Proofs.Text.Checksums
import RuleSchema.Proofs.Value.Equality
import RuleSchema.Proofs.Validator.Given
import RuleSchema.Proofs.Agreement.Comparisons
import RuleSchema.Proofs.Validator.Records
import RuleSchema.Proofs.Json.Dumped
import RuleSchema.Proofs.Number.Decimals
import RuleSchema.Proofs.Rule.Grammar
import RuleSchema.Proofs.Rule.Readings
import RuleSchema.Proofs.Rule.Respelled
import RuleSchema.Proofs.Text.Padding
import RuleSchema.Proofs.Schema.Merging
import RuleSchema.Proofs.Compile.Ranks
import RuleSchema.Proofs.Rule.Blame
