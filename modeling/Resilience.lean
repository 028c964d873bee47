import Resilience.Backoff
import Resilience.Breaker.Config
import Resilience.Breaker.Document
import Resilience.Breaker.History
import Resilience.Breaker.Observer
import Resilience.Breaker.State
import Resilience.CallError
import Resilience.Client.Basic
import Resilience.Client.Build
import Resilience.Client.Describe
import Resilience.Context
import Resilience.Decimal.Binary64
import Resilience.Decimal.Shortest
import Resilience.Decimal.Text
import Resilience.Journal
import Resilience.Json.Decode
import Resilience.Json.Shape
import Resilience.Json.Text
import Resilience.Json.Tree
import Resilience.Json.Value
import Resilience.Level
import Resilience.LogEvent
import Resilience.Retry
import Resilience.Settings.Basic
import Resilience.Settings.Document
import Resilience.Settings.Environment
import Resilience.Settings.Load
import Resilience.Settings.Names
import Resilience.Settings.Validation
import Resilience.Simulation
import Resilience.Telemetry
import Resilience.Telemetry.Document
import Resilience.Text.Alphanumeric
import Resilience.Text.Blank
import Resilience.Text.Cased
import Resilience.Text.Lowercase
import Resilience.Text.Number
import Resilience.Text.Quoted
import Resilience.Text.Unseen
import Resilience.Time.Clock
import Resilience.Time.Duration
import Resilience.Time.Instant
import Resilience.Time.Notation
import Resilience.Tracing.Filter
import Resilience.Tracing.Sink
import Resilience.Yaml.Cursor
import Resilience.Yaml.Lexer
import Resilience.Yaml.Node
import Resilience.Yaml.Property
import Resilience.Yaml.Scalar
import Resilience.Yaml.Schema
import Resilience.Yaml.Select
import Resilience.Yaml.Text
import Resilience.Yaml.Token
import Resilience.Proofs.Breaker.Invariant
import Resilience.Proofs.Breaker.Runs
import Resilience.Proofs.Breaker.TrialPeriod
import Resilience.Proofs.Breaker.Changes
import Resilience.Proofs.Breaker.Announcements
import Resilience.Proofs.Breaker.Quarantine
import Resilience.Proofs.Breaker.Polling
import Resilience.Proofs.Breaker.Calls
import Resilience.Proofs.Breaker.Window
import Resilience.Proofs.Breaker.Totals
import Resilience.Proofs.Breaker.Reset
import Resilience.Proofs.Breaker.Accounting
import Resilience.Proofs.Backoff
import Resilience.Proofs.Breaker.Outage
import Resilience.Proofs.Client.Attempt
import Resilience.Proofs.Retry.Loop
import Resilience.Proofs.Client.Session
import Resilience.Proofs.Client.Admission
import Resilience.Proofs.Client.Chronicle
import Resilience.Proofs.Client.Course
import Resilience.Proofs.Client.Result
import Resilience.Proofs.Client.Deadline
import Resilience.Proofs.Client.Cancellation
import Resilience.Proofs.Settings.Validation
import Resilience.Proofs.Text.Lowercase
import Resilience.Proofs.Settings.Overlay
import Resilience.Proofs.Time.Notation
import Resilience.Proofs.Json.Records
import Resilience.Proofs.Json.Canonical
import Resilience.Proofs.Settings.Document
import Resilience.Proofs.Breaker.Document
import Resilience.Proofs.Settings.RoundTrip
import Resilience.Proofs.LogEvent
import Resilience.Proofs.Tracing.Spans
import Resilience.Proofs.Client.Telemetry
import Resilience.Proofs.Retry.Course
import Resilience.Proofs.Retry.Elapsed
import Resilience.Proofs.Client.Diagnostics
import Resilience.Proofs.Ceiling
import Resilience.Proofs.Context
import Resilience.Proofs.Retry.Cancellation
import Resilience.Proofs.Retry.Sequel
import Resilience.Proofs.Client.Delay
import Resilience.Proofs.Tracing.Bookkeeping
import Resilience.Proofs.Settings.Directives
import Resilience.Proofs.Settings.Choice
import Resilience.Proofs.Telemetry.Document
import Resilience.Proofs.Breaker.Range
import Resilience.Proofs.Tracing.Transcript
