import PullDecoration.Analysis.Gate
import PullDecoration.Analysis.Issue
import PullDecoration.Analysis.Result
import PullDecoration.Analysis.Wording
import PullDecoration.Branch.Analysed
import PullDecoration.Branch.Descriptor
import PullDecoration.Branch.Kind
import PullDecoration.Branch.Registry
import PullDecoration.Cloud.Client
import PullDecoration.Cloud.Comment
import PullDecoration.Cloud.Decoration
import PullDecoration.Cloud.Endpoint
import PullDecoration.Cloud.Page
import PullDecoration.CommandLine.Command
import PullDecoration.CommandLine.Run
import PullDecoration.Dialogue
import PullDecoration.Host
import PullDecoration.Http.Exchange
import PullDecoration.Http.Status
import PullDecoration.Identifier
import PullDecoration.Json.Codec
import PullDecoration.Json.Document
import PullDecoration.Json.Double
import PullDecoration.Json.Number
import PullDecoration.Json.Parser
import PullDecoration.Json.ReadError
import PullDecoration.Json.Record
import PullDecoration.Json.Tagged
import PullDecoration.Json.Value
import PullDecoration.Main
import PullDecoration.Pattern.Basic
import PullDecoration.Pattern.CharSet
import PullDecoration.Pattern.Error
import PullDecoration.Pattern.Meaning
import PullDecoration.Pattern.Parser
import PullDecoration.Pattern.Regex
import PullDecoration.Pattern.Tree
import PullDecoration.Proofs.Analysis.Comments
import PullDecoration.Proofs.Decoration.Schedule
import PullDecoration.Proofs.Provider.History
import PullDecoration.Proofs.Provider.Removal
import PullDecoration.Proofs.Provider.Marker
import PullDecoration.Proofs.Transcript
import PullDecoration.Provider.Error
import PullDecoration.Provider.Marker
import PullDecoration.Provider.Pass
import PullDecoration.Provider.Store
import PullDecoration.Provider.Sweep
import PullDecoration.Report.Basic
import PullDecoration.Report.Pass
import PullDecoration.Report.RunId
import PullDecoration.Report.Step
import PullDecoration.Report.Timestamp
import PullDecoration.Resolution.Error
import PullDecoration.Resolution.Parameters
import PullDecoration.Resolution.Resolver
import PullDecoration.Settings.Basic
import PullDecoration.Settings.File
import PullDecoration.Settings.Raw
import PullDecoration.Settings.Shown
import PullDecoration.Settings.Toggles
import PullDecoration.Text.Base64
import PullDecoration.Text.Blank
import PullDecoration.Text.Natural
import PullDecoration.Text.Quoted
import PullDecoration.Text.Slice
import PullDecoration.Text.Utf8
import PullDecoration.Toml.Parser
import PullDecoration.Toml.Scalar
import PullDecoration.Toml.Value
import PullDecoration.Unicode.Category
import PullDecoration.Unicode.CategoryTable
import PullDecoration.Unicode.Fold
import PullDecoration.Unicode.FoldTable
import PullDecoration.Unicode.Property
import PullDecoration.Unicode.PropertyTable
import PullDecoration.Unicode.Runs
import PullDecoration.Unicode.ScriptTable
import PullDecoration.Url.Basic
import PullDecoration.Url.Host
import PullDecoration.Url.Percent
import PullDecoration.Url.Punycode
import PullDecoration.Proofs.Decoration.Convergence
import PullDecoration.Proofs.Resolution.Outcome
import PullDecoration.Proofs.Resolution.Soundness
import PullDecoration.Proofs.Resolution.Request
import PullDecoration.Proofs.Branch.Loading
import PullDecoration.Proofs.Provider.Survival
import PullDecoration.Proofs.Cloud.Wire
import PullDecoration.Proofs.Url.Below
import PullDecoration.Proofs.Text.Utf8
import PullDecoration.Proofs.Cloud.Clearing
import PullDecoration.Proofs.Resolution.Refusal
import PullDecoration.Proofs.Url.Origin
import PullDecoration.Proofs.Cloud.Walk
import PullDecoration.Proofs.Cloud.Listing
import PullDecoration.Proofs.Cloud.Failure
import PullDecoration.Proofs.Cloud.Repetition
import PullDecoration.Proofs.Cloud.Origin
import PullDecoration.Proofs.Resolution.Upgrade
import PullDecoration.Proofs.Json.Indented
import PullDecoration.Proofs.Json.RoundTrip
import PullDecoration.Proofs.Report.RoundTrip
import PullDecoration.Proofs.Cloud.Accounting
import PullDecoration.Proofs.Cloud.Supported
import PullDecoration.Proofs.CommandLine.Decoration
import PullDecoration.Proofs.Cloud.Script
import PullDecoration.Proofs.Url.Segments
import PullDecoration.Proofs.Cloud.Resource
import PullDecoration.Proofs.Cloud.Service
import PullDecoration.Proofs.Cloud.Refinement
import PullDecoration.Proofs.Branch.Wire
import PullDecoration.Proofs.Json.Checking
import PullDecoration.Proofs.Json.Normal
import PullDecoration.Proofs.Json.Soundness
import PullDecoration.Proofs.Json.Strict
import PullDecoration.Proofs.Documents
import PullDecoration.Proofs.Cloud.Secrecy
import PullDecoration.Proofs.Provider.Discipline
import PullDecoration.Proofs.Provider.Interleaving
import PullDecoration.Proofs.Url.Denotation
import PullDecoration.Proofs.Url.Faithful
import PullDecoration.Proofs.Cloud.Confinement
import PullDecoration.Proofs.Resolution.Agreement
import PullDecoration.Proofs.Resolution.Recording
import PullDecoration.Proofs.Settings.Validation
import PullDecoration.Proofs.Text.Base64
import PullDecoration.Proofs.Cloud.Authorization
import PullDecoration.Proofs.Cloud.Reach
import PullDecoration.Proofs.Pattern.Matching
import PullDecoration.Proofs.Pattern.Reading
import PullDecoration.Proofs.Pattern.Opening
import PullDecoration.Proofs.Pattern.Progress
import PullDecoration.Proofs.Pattern.Closing.Agreement
import PullDecoration.Proofs.Pattern.Closing.Tokens
import PullDecoration.Proofs.Pattern.Closing.Classes
import PullDecoration.Proofs.Pattern.Closing.Openings
import PullDecoration.Proofs.Pattern.Closing.Patterns
import PullDecoration.Proofs.Pattern.Anchored
import PullDecoration.Proofs.Resolution.Classification
import PullDecoration.Proofs.Pattern.Words
import PullDecoration.Proofs.Resolution.DefaultPattern
import PullDecoration.Proofs.Branch.Lookup
import PullDecoration.Proofs.Resolution.Precedence
import PullDecoration.Proofs.Branch.Reported
import PullDecoration.Proofs.Resolution.Footprint
import PullDecoration.Proofs.Text.Trim
import PullDecoration.Proofs.Settings.Checks
import PullDecoration.Proofs.Settings.Environment
import PullDecoration.Proofs.Resolution.Complaint
import PullDecoration.Proofs.Settings.Document
import PullDecoration.Proofs.Text.Parts
import PullDecoration.Proofs.Host.Versions
import PullDecoration.Proofs.Analysis.SourcePath
import PullDecoration.Proofs.Analysis.Summary
import PullDecoration.Proofs.Cloud.Payload
