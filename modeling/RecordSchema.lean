import RecordSchema.Assertion
import RecordSchema.Checker.Arguments
import RecordSchema.Checker.Check
import RecordSchema.Checker.Indent
import RecordSchema.Checker.Input
import RecordSchema.Checker.Log
import RecordSchema.Checker.Options
import RecordSchema.Checker.Report
import RecordSchema.Contract
import RecordSchema.Fault
import RecordSchema.Field
import RecordSchema.Issue
import RecordSchema.Json.Quoted
import RecordSchema.Json.Reader
import RecordSchema.Json.Writer
import RecordSchema.Main
import RecordSchema.Number.Decimal
import RecordSchema.Number.Double
import RecordSchema.Number.Notation
import RecordSchema.Number.Order
import RecordSchema.Number.Power
import RecordSchema.Number.Shortest
import RecordSchema.Pattern.Basic
import RecordSchema.Pattern.CharClass
import RecordSchema.Pattern.Flaw
import RecordSchema.Pattern.Matcher
import RecordSchema.Pattern.Reader
import RecordSchema.Pattern.Syntax
import RecordSchema.Pattern.Width
import RecordSchema.Proofs.Acceptance
import RecordSchema.Proofs.Blame
import RecordSchema.Proofs.Budget
import RecordSchema.Proofs.Builtin
import RecordSchema.Proofs.Check
import RecordSchema.Proofs.Depth
import RecordSchema.Proofs.Document
import RecordSchema.Proofs.Escape
import RecordSchema.Proofs.Idempotence
import RecordSchema.Proofs.Location
import RecordSchema.Proofs.Lowercase
import RecordSchema.Proofs.Manifest
import RecordSchema.Proofs.Matching
import RecordSchema.Proofs.Outcome
import RecordSchema.Proofs.Reach
import RecordSchema.Proofs.Record
import RecordSchema.Proofs.Row
import RecordSchema.Proofs.Sharing
import RecordSchema.Proofs.Simulation
import RecordSchema.Proofs.Surface
import RecordSchema.Proofs.Trail
import RecordSchema.Proofs.Transform
import RecordSchema.Proofs.Unfolding
import RecordSchema.Proofs.Vocabulary
import RecordSchema.Proofs.Walk
import RecordSchema.Proofs.Written
import RecordSchema.Registration
import RecordSchema.Registry
import RecordSchema.Request
import RecordSchema.Rule
import RecordSchema.Schema.Basic
import RecordSchema.Schema.Compile
import RecordSchema.Schema.Table
import RecordSchema.Session
import RecordSchema.Text.Basic
import RecordSchema.Text.Blank
import RecordSchema.Text.Casing
import RecordSchema.Text.CharacterName
import RecordSchema.Text.Digit
import RecordSchema.Text.Identifier
import RecordSchema.Text.Integer
import RecordSchema.Text.Letter
import RecordSchema.Text.Lowercase
import RecordSchema.Text.NameList
import RecordSchema.Text.Printable
import RecordSchema.Text.Quoted
import RecordSchema.Text.Ranges
import RecordSchema.Text.Uppercase
import RecordSchema.Text.Word
import RecordSchema.Trail
import RecordSchema.Transform
import RecordSchema.Value.Basic
import RecordSchema.Value.Display
import RecordSchema.Value.Equality
import RecordSchema.Value.Record
import RecordSchema.Proofs.Lookup
import RecordSchema.Proofs.Governed
import RecordSchema.Proofs.Easing
import RecordSchema.Proofs.Relaxing
import RecordSchema.Proofs.Reordering
import RecordSchema.Proofs.Malformed
import RecordSchema.Proofs.Unused
import RecordSchema.Proofs.Sections
import RecordSchema.Proofs.Grammar
import RecordSchema.Proofs.Numerals
import RecordSchema.Proofs.Writing
import RecordSchema.Proofs.Reading
import RecordSchema.Proofs.Storing
import RecordSchema.Proofs.Strict
import RecordSchema.Proofs.Leading
import RecordSchema.Proofs.Lenient
import RecordSchema.Proofs.Caseless
import RecordSchema.Proofs.Exact
import RecordSchema.Proofs.Truncation
import RecordSchema.Proofs.Unordered
import RecordSchema.Proofs.Changes
import RecordSchema.Proofs.Suited
import RecordSchema.Proofs.Bounds
import RecordSchema.Proofs.Equality
import RecordSchema.Proofs.Candidates
import RecordSchema.Proofs.RoundTrip
import RecordSchema.Slots
import RecordSchema.Proofs.Registry
import RecordSchema.Proofs.Slots
