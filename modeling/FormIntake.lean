import FormIntake.Calendar.Date
import FormIntake.Calendar.DateTime
import FormIntake.Calendar.Layout
import FormIntake.Calendar.Offset
import FormIntake.Calendar.Rfc3339
import FormIntake.Decoder
import FormIntake.Demo
import FormIntake.Entries
import FormIntake.Error
import FormIntake.Field.Basic
import FormIntake.Field.Kind
import FormIntake.Field.Limit
import FormIntake.Field.Registry
import FormIntake.Field.Spec
import FormIntake.Field.Validator
import FormIntake.Field.Value
import FormIntake.Json
import FormIntake.Json.Mismatch
import FormIntake.Json.Reader
import FormIntake.Json.Writer
import FormIntake.Number.Binary64
import FormIntake.Number.Decimal
import FormIntake.Number.Integer
import FormIntake.Number.Places
import FormIntake.Number.Rounding
import FormIntake.Number.Shortest
import FormIntake.Pattern.Basic
import FormIntake.Pattern.CharClass
import FormIntake.Pattern.FoldTable
import FormIntake.Pattern.Machine
import FormIntake.Pattern.Matcher
import FormIntake.Pattern.Property
import FormIntake.Pattern.Reader
import FormIntake.Query
import FormIntake.Record.Basic
import FormIntake.Record.MemberType
import FormIntake.Record.Transfer
import FormIntake.Session
import FormIntake.Settings
import FormIntake.Settings.Loading
import FormIntake.Settings.Members
import FormIntake.Settings.Once
import FormIntake.Text.Added
import FormIntake.Text.Age
import FormIntake.Text.Age.Table
import FormIntake.Text.Blank
import FormIntake.Text.Boundary
import FormIntake.Text.Boundary.Table
import FormIntake.Text.Category
import FormIntake.Text.Category.Table
import FormIntake.Text.CharSet
import FormIntake.Text.Glyph
import FormIntake.Text.Glyph.Table
import FormIntake.Text.LowerCase
import FormIntake.Text.LowerCase.Table
import FormIntake.Text.Pieces
import FormIntake.Text.Property
import FormIntake.Text.Property.Table
import FormIntake.Text.Quoted
import FormIntake.Text.Ranges
import FormIntake.Text.Scan
import FormIntake.Text.Script
import FormIntake.Text.Script.Shared
import FormIntake.Text.Script.Table
import FormIntake.Text.Utf8
import FormIntake.Text.Utf8.Ranges
import FormIntake.Toml
import FormIntake.Toml.Document
import FormIntake.Toml.Json
import FormIntake.Toml.Reader
import FormIntake.Toml.Scalar
import FormIntake.Proofs.Record.Winner
import FormIntake.Proofs.Record.Reading
import FormIntake.Proofs.Record.Resolution
import FormIntake.Proofs.Calendar.Numeral
import FormIntake.Proofs.Calendar.Offset
import FormIntake.Proofs.Calendar.Parts
import FormIntake.Proofs.Calendar.Rfc3339
import FormIntake.Proofs.Number.Finite
import FormIntake.Proofs.Record.Lasting
import FormIntake.Proofs.Decoder.Verdict
import FormIntake.Proofs.Record.Filling
import FormIntake.Proofs.Session
import FormIntake.Proofs.Decoder.Agreement
import FormIntake.Proofs.Text.Pieces
import FormIntake.Proofs.Number.Integer
import FormIntake.Proofs.Field.Limit
import FormIntake.Proofs.Field.Applicability
import FormIntake.Proofs.Record.Unmatched
import FormIntake.Proofs.Calendar.Cells
import FormIntake.Proofs.Calendar.Shown
import FormIntake.Proofs.Calendar.Separation
import FormIntake.Proofs.Field.Dates
import FormIntake.Proofs.Query.Urlencoded
import FormIntake.Proofs.Field.Spec
import FormIntake.Proofs.Demo
import FormIntake.Proofs.Json.Merge
import FormIntake.Proofs.Toml.Json
import FormIntake.Proofs.Settings.Loading
import FormIntake.Proofs.Settings.Layers
import FormIntake.Proofs.Settings.Once
import FormIntake.Proofs.Decoder.Sources
import FormIntake.Proofs.Field.FloatRange
import FormIntake.Proofs.Number.DecimalText
import FormIntake.Proofs.Field.Accepted
import FormIntake.Proofs.Field.Relabelling
import FormIntake.Proofs.Field.TextLimit
import FormIntake.Proofs.Field.IntegerLimit
import FormIntake.Proofs.Query.Joining
import FormIntake.Proofs.Query.History
import FormIntake.Proofs.Settings.Zone
