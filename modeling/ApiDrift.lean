import ApiDrift.Api.Entity
import ApiDrift.Api.Signature
import ApiDrift.Api.TypeRef
import ApiDrift.Bump
import ApiDrift.Change
import ApiDrift.Change.Record
import ApiDrift.Command.Comparing
import ApiDrift.Command.Folder
import ApiDrift.Command.Line
import ApiDrift.Command.Progress
import ApiDrift.Command.Run
import ApiDrift.Command.Settings
import ApiDrift.Comparison
import ApiDrift.Config
import ApiDrift.Decimal.Binary
import ApiDrift.Decimal.Numeral
import ApiDrift.Decimal.Quick
import ApiDrift.Decimal.Shortest
import ApiDrift.Failure
import ApiDrift.Ignore
import ApiDrift.Json.Decoding
import ApiDrift.Json.Reading
import ApiDrift.Json.Rejection
import ApiDrift.Json.Text
import ApiDrift.Json.Token
import ApiDrift.Json.Tree
import ApiDrift.Json.Writing
import ApiDrift.Keyed
import ApiDrift.Log
import ApiDrift.Log.Filter
import ApiDrift.Main
import ApiDrift.Output.Format
import ApiDrift.Output.Page
import ApiDrift.Output.Rendering
import ApiDrift.Overloads
import ApiDrift.Path
import ApiDrift.Pattern.Bracket
import ApiDrift.Pattern.CharSet
import ApiDrift.Pattern.CodeRange
import ApiDrift.Pattern.Escape
import ApiDrift.Pattern.Expr
import ApiDrift.Pattern.Flags
import ApiDrift.Pattern.Glob
import ApiDrift.Pattern.NamedClass
import ApiDrift.Pattern.Occurrence
import ApiDrift.Pattern.Part
import ApiDrift.Pattern.Reading
import ApiDrift.Pattern.Room
import ApiDrift.Pattern.Token
import ApiDrift.Report
import ApiDrift.Snapshot.Decoding
import ApiDrift.Snapshot.Encoding
import ApiDrift.Text.Blank
import ApiDrift.Text.Category
import ApiDrift.Text.Digit
import ApiDrift.Text.Encoded
import ApiDrift.Text.Hidden
import ApiDrift.Text.Letter
import ApiDrift.Text.LetterCase
import ApiDrift.Text.Number
import ApiDrift.Text.Property
import ApiDrift.Text.Ranges
import ApiDrift.Text.Script
import ApiDrift.Text.Word
import ApiDrift.Toml.Reading
import ApiDrift.Toml.Scalar
import ApiDrift.Toml.Text
import ApiDrift.Toml.Value
import ApiDrift.Toml.Writing
import ApiDrift.Verdict
import ApiDrift.Version
import ApiDrift.Version.Reading
import ApiDrift.Proofs.Bump.Order
import ApiDrift.Proofs.Comparison.Sequence
import ApiDrift.Proofs.Keyed.Lookup
import ApiDrift.Proofs.Text.ByteOrder
import ApiDrift.Proofs.Position
import ApiDrift.Proofs.Tour
import ApiDrift.Proofs.Visit
import ApiDrift.Proofs.Walk
import ApiDrift.Proofs.Comparison.Changelog
import ApiDrift.Proofs.Comparison.Severity
import ApiDrift.Proofs.Overloads.Serves
import ApiDrift.Proofs.Comparison.FirstFailure
import ApiDrift.Proofs.Comparison.Promise
import ApiDrift.Proofs.Comparison.Ignoring
import ApiDrift.Proofs.Naming
import ApiDrift.Proofs.Comparison.Filtering
import ApiDrift.Proofs.Overloads.Equivalence
import ApiDrift.Proofs.Comparison.Silence
import ApiDrift.Proofs.Change.Softened
import ApiDrift.Proofs.Overloads.Widening
import ApiDrift.Proofs.Comparison.Widening
import ApiDrift.Proofs.Comparison.Lockstep
import ApiDrift.Proofs.Comparison.Relocation
import ApiDrift.Proofs.Comparison.Reversal
import ApiDrift.Proofs.Keyed.Merge
import ApiDrift.Proofs.Comparison.Splitting
import ApiDrift.Proofs.Overloads.Reach
import ApiDrift.Proofs.Comparison.Unread
import ApiDrift.Proofs.Comparison.Course
import ApiDrift.Proofs.Path.Spelling
import ApiDrift.Proofs.Comparison.Moves
import ApiDrift.Proofs.Comparison.Differ
import ApiDrift.Proofs.Comparison.Session
import ApiDrift.Proofs.Decimal.Quick
import ApiDrift.Proofs.Json.Text
import ApiDrift.Proofs.Json.Number
import ApiDrift.Proofs.Json.RoundTrip
import ApiDrift.Proofs.Json.Nesting
import ApiDrift.Proofs.Snapshot.Records
import ApiDrift.Proofs.Snapshot.RoundTrip
import ApiDrift.Proofs.Command.Folder
import ApiDrift.Proofs.Command.Grounds
import ApiDrift.Proofs.Command.Ending
import ApiDrift.Proofs.Command.NoTrace
import ApiDrift.Proofs.Command.SameVerdict
import ApiDrift.Proofs.Version.Next
import ApiDrift.Proofs.Version.Releases
import ApiDrift.Proofs.Text.Classes
import ApiDrift.Proofs.Version.Grammar
import ApiDrift.Proofs.Version.Expression
import ApiDrift.Proofs.Version.Guessing
import ApiDrift.Proofs.Pattern.Language
import ApiDrift.Proofs.Pattern.Meaning
import ApiDrift.Proofs.Glob.Source
import ApiDrift.Proofs.Glob.Matching
import ApiDrift.Proofs.Glob.Room
import ApiDrift.Proofs.Glob.Rules
import ApiDrift.Proofs.Command.Announcement
import ApiDrift.Proofs.Decimal.Spelling
import ApiDrift.Proofs.Json.Clean
import ApiDrift.Proofs.Output.ReadBack
import ApiDrift.Proofs.Command.Document
import ApiDrift.Proofs.Overloads.Single
import ApiDrift.Proofs.Overloads.Unmatched
import ApiDrift.Proofs.Overloads.Marking
import ApiDrift.Proofs.Overloads.Order
import ApiDrift.Proofs.Overloads.Notes
import ApiDrift.Proofs.Report.Counts
import ApiDrift.Proofs.Keyed.Last
import ApiDrift.Proofs.Building
import ApiDrift.Proofs.Path.Within
import ApiDrift.Proofs.Report.Below
import ApiDrift.Proofs.Json.Reordering
import ApiDrift.Proofs.Json.Taking
import ApiDrift.Proofs.Snapshot.MemberOrder
import ApiDrift.Proofs.Output.Colors
import ApiDrift.Proofs.Toml.Document
import ApiDrift.Proofs.Output.Export
