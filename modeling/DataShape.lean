import DataShape.Assertion
import DataShape.Settings.Decoding
import DataShape.Value.OfJson
import DataShape.Path.Dotted
import DataShape.Report.Equality
import DataShape.Text.Quoted
import DataShape.Proofs.Entries
import DataShape.Proofs.Induction
import DataShape.Proofs.Reading
import DataShape.Proofs.Unambiguous
import DataShape.Proofs.Json.Parts
import DataShape.Proofs.Report.Log
import DataShape.Proofs.Report.Traversal
import DataShape.Proofs.Report.Rendering
import DataShape.Proofs.Report.Simple
import DataShape.Proofs.Report.Nodes
import DataShape.Proofs.Report.Arrangement
import DataShape.Proofs.Report.Extensionality
import DataShape.Proofs.Json.Repeated
import DataShape.Proofs.Report.Clashes
import DataShape.Proofs.Report.Decoding
import DataShape.Proofs.Numeric.ExactValue
import DataShape.Proofs.Numeric.Nearest
import DataShape.Proofs.Value.Numbers
import DataShape.Proofs.Value.Equality
import DataShape.Proofs.Text.Quoted
import DataShape.Proofs.Value.Inspect
import DataShape.Proofs.Value.OfJson
import DataShape.Proofs.Matching.Walk
import DataShape.Proofs.Matching.Ending
import DataShape.Proofs.Matching.Replay
import DataShape.Proofs.Matching.Verdict
import DataShape.Proofs.Matching.Conformance
import DataShape.Proofs.Matching.Findings
import DataShape.Proofs.Matching.Listing
import DataShape.Proofs.Matching.Lifting
import DataShape.Proofs.Matching.DeepLifting
import DataShape.Proofs.Matching.Relocation
import DataShape.Proofs.Matching.Routes
import DataShape.Proofs.Matching.FirstViolation
import DataShape.Proofs.Matching.Places
import DataShape.Proofs.Path.Dotted
import DataShape.Proofs.Path.RoundTrip
import DataShape.Proofs.Matching.Lookup
import DataShape.Proofs.Matching.OpenSessions
import DataShape.Proofs.Matching.Showing
import DataShape.Proofs.Matching.Simple
import DataShape.Proofs.Matching.Reordering
import DataShape.Proofs.Report.Naming
import DataShape.Proofs.Matching.Renaming
import DataShape.Proofs.Shape.Replacement
import DataShape.Proofs.Matching.Alternatives
import DataShape.Proofs.Matching.Leaving
import DataShape.Proofs.Matching.Locality
import DataShape.Proofs.Shape.Nullable
import DataShape.Proofs.Matching.AddedFields
import DataShape.Proofs.Matching.ForbiddenFields
import DataShape.Proofs.Matching.TemplateEquality
import DataShape.Proofs.Regex.Matches
import DataShape.Proofs.Regex.Readers
import DataShape.Proofs.Regex.Counts
import DataShape.Proofs.Regex.Pieces
import DataShape.Proofs.Regex.Items
import DataShape.Proofs.Regex.Brackets
import DataShape.Proofs.Regex.Groups
import DataShape.Proofs.Regex.Framing
import DataShape.Proofs.Pattern.Whole
