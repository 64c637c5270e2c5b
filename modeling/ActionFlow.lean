import ActionFlow.Flow.Condition
import ActionFlow.Flow.Document
import ActionFlow.Flow.Graph
import ActionFlow.Flow.Printer
import ActionFlow.Flow.Schema
import ActionFlow.Flow.Validation
import ActionFlow.Format.Address
import ActionFlow.Format.Calendar
import ActionFlow.Format.DateTime
import ActionFlow.Format.Email
import ActionFlow.Format.NetworkAddress
import ActionFlow.Format.Url
import ActionFlow.Http.Client
import ActionFlow.Http.Response
import ActionFlow.Json.Reader
import ActionFlow.Json.Writer
import ActionFlow.Keyed
import ActionFlow.Log.Correlation
import ActionFlow.Log.Record
import ActionFlow.Log.Setup
import ActionFlow.Number.Binary64
import ActionFlow.Number.Decimal
import ActionFlow.Path
import ActionFlow.Pattern.Cursor
import ActionFlow.Pattern.Escape
import ActionFlow.Pattern.Fault
import ActionFlow.Pattern.Reader
import ActionFlow.Pattern.Syntax
import ActionFlow.Proofs.Graph.Reachability
import ActionFlow.Proofs.Graph.Search
import ActionFlow.Proofs.Run.Calls
import ActionFlow.Proofs.Validation.Checks
import ActionFlow.Proofs.Validation.Requirements
import ActionFlow.Proofs.Validation.Parameters
import ActionFlow.Proofs.Document.Reparse
import ActionFlow.Proofs.Template.Lookups
import ActionFlow.Proofs.Template.Cuts
import ActionFlow.Run.Basic
import ActionFlow.Run.Dispatch
import ActionFlow.Run.Failure
import ActionFlow.Run.FailureReport
import ActionFlow.Run.Plan
import ActionFlow.Run.Request
import ActionFlow.Run.Result
import ActionFlow.Run.Retry
import ActionFlow.Run.Services
import ActionFlow.Run.Snapshot
import ActionFlow.Run.Step
import ActionFlow.Schema.Checked
import ActionFlow.Schema.Scalars
import ActionFlow.Store.Basic
import ActionFlow.Template
import ActionFlow.Text.Blank
import ActionFlow.Text.CharacterName
import ActionFlow.Text.CharacterName.Run
import ActionFlow.Text.CharacterName.Second
import ActionFlow.Text.CharacterName.Series
import ActionFlow.Text.CodeRanges
import ActionFlow.Text.Encoding
import ActionFlow.Text.Identifier
import ActionFlow.Text.Letter
import ActionFlow.Text.Numeral
import ActionFlow.Text.Printable
import ActionFlow.Text.Quoted
import ActionFlow.Text.Search
import ActionFlow.Text.Uppercase
import ActionFlow.Text.Word
import ActionFlow.Value
import ActionFlow.Value.Equality
import ActionFlow.Value.FreeForm
import ActionFlow.Value.Text
import ActionFlow.Writing.African
import ActionFlow.Writing.American
import ActionFlow.Writing.Ancient
import ActionFlow.Writing.EastAsian
import ActionFlow.Writing.European
import ActionFlow.Writing.Indic
import ActionFlow.Writing.Latin
import ActionFlow.Writing.Mathematical
import ActionFlow.Writing.Notation
import ActionFlow.Writing.Pictographs
import ActionFlow.Writing.Semitic
import ActionFlow.Writing.SoutheastAsian
import ActionFlow.Writing.Symbols
import ActionFlow.Proofs.Run.History
import ActionFlow.Proofs.Document.Fields
import ActionFlow.Proofs.Document.RoundTrip
import ActionFlow.Proofs.Run.Progress
import ActionFlow.Proofs.Run.Restoration
import ActionFlow.Proofs.Run.Recording
import ActionFlow.Proofs.Run.Repetition
import ActionFlow.Proofs.Number.Rounding
import ActionFlow.Proofs.Json.Numbers
import ActionFlow.Proofs.Json.RoundTrip
import ActionFlow.Proofs.Json.Legible
import ActionFlow.Proofs.Document.Reread
import ActionFlow.Proofs.Run.Legible
import ActionFlow.Proofs.Store.Refinement
import ActionFlow.Proofs.Run.Decisions
import ActionFlow.Proofs.Run.Acyclic
import ActionFlow.Proofs.Run.Advice
import ActionFlow.Proofs.Run.Context
import ActionFlow.Proofs.Run.Selection
import ActionFlow.Proofs.Run.Transfers
import ActionFlow.Proofs.Validation.Faults
import ActionFlow.Proofs.Pattern.Limits
import ActionFlow.Proofs.Validation.Verdict
import ActionFlow.Proofs.Template.Walkers
import ActionFlow.Proofs.Template.Dependence
import ActionFlow.Proofs.Run.Footprint
import ActionFlow.Proofs.Run.Forms
import ActionFlow.Proofs.Json.Limits
import ActionFlow.Proofs.Http.Judgement
import ActionFlow.Proofs.Run.Responses
import ActionFlow.Proofs.Run.Attempts
import ActionFlow.Proofs.Number.Exact
import ActionFlow.Proofs.Condition.Order
import ActionFlow.Proofs.Value.Parts
import ActionFlow.Proofs.Value.Likeness
import ActionFlow.Proofs.Condition.Equality
import ActionFlow.Proofs.Format.Grammars
import ActionFlow.Proofs.Format.Host
import ActionFlow.Proofs.Validation.FormDefinitions
import ActionFlow.Proofs.Condition.Unresolved
import ActionFlow.Proofs.Path.Composition
import ActionFlow.Proofs.Http.Headers
import ActionFlow.Proofs.Run.Scopes
