import ServiceCall.Attempt.Info
import ServiceCall.Attempt.InvocationId
import ServiceCall.Call.Basic
import ServiceCall.Call.Build
import ServiceCall.Call.HostPrefix
import ServiceCall.Call.Target
import ServiceCall.Classification
import ServiceCall.Client.Basic
import ServiceCall.Client.Defaults
import ServiceCall.Client.Describe
import ServiceCall.Client.Endpoints
import ServiceCall.Decimal.Shortest
import ServiceCall.Digest.Block
import ServiceCall.Digest.Content
import ServiceCall.Digest.Hmac
import ServiceCall.Digest.Md5
import ServiceCall.Digest.Sha256
import ServiceCall.Execution.Budget
import ServiceCall.Execution.Context
import ServiceCall.Execution.Environment
import ServiceCall.Execution.Journal
import ServiceCall.Execution.Log
import ServiceCall.Execution.Loop
import ServiceCall.Execution.Metrics
import ServiceCall.Failure
import ServiceCall.Http.Fields
import ServiceCall.Http.Header
import ServiceCall.Http.Message
import ServiceCall.Http.Uri
import ServiceCall.Http.Visible
import ServiceCall.Json.Number
import ServiceCall.Json.Reader
import ServiceCall.Json.Value
import ServiceCall.Json.Writer
import ServiceCall.Rehearsal.Plain
import ServiceCall.Rehearsal.Session
import ServiceCall.Rehearsal.World
import ServiceCall.Retry.Backoff
import ServiceCall.Retry.Config
import ServiceCall.Retry.Mode
import ServiceCall.Retry.Quota
import ServiceCall.Retry.Strategy
import ServiceCall.Signing.Canonical
import ServiceCall.Signing.SigV4
import ServiceCall.Signing.Signer
import ServiceCall.Skew.Corrector
import ServiceCall.Skew.Offset
import ServiceCall.Text.Base64
import ServiceCall.Text.Basic
import ServiceCall.Text.Blank
import ServiceCall.Text.Hex
import ServiceCall.Text.Numeral
import ServiceCall.Text.Quoted
import ServiceCall.Text.Table
import ServiceCall.Text.Unprintable
import ServiceCall.Text.Utf8
import ServiceCall.Time.Civil
import ServiceCall.Time.Duration
import ServiceCall.Time.HttpDate
import ServiceCall.Time.Instant
import ServiceCall.Time.Notation
import ServiceCall.Time.Stamp
import ServiceCall.Web.Address
import ServiceCall.Web.Domain
import ServiceCall.Web.Domain.Composition
import ServiceCall.Web.Domain.Direction
import ServiceCall.Web.Domain.Joining
import ServiceCall.Web.Domain.Label
import ServiceCall.Web.Domain.Mapping
import ServiceCall.Web.Domain.Punycode
import ServiceCall.Web.Form
import ServiceCall.Web.Ip
import ServiceCall.Web.Percent
import ServiceCall.Proofs.Execution.Attempts
import ServiceCall.Proofs.Execution.Rulings
import ServiceCall.Proofs.Execution.Runs
import ServiceCall.Proofs.Execution.Trace
import ServiceCall.Proofs.Retry.Ledger
import ServiceCall.Proofs.Execution.Tokens
import ServiceCall.Proofs.Execution.Reference
import ServiceCall.Proofs.Outcomes
import ServiceCall.Proofs.Execution.Threads
import ServiceCall.Proofs.Execution.Crashes
import ServiceCall.Proofs.Execution.Ready
import ServiceCall.Proofs.Execution.Refinement
import ServiceCall.Proofs.Text.Joins
import ServiceCall.Proofs.Text.Codes
import ServiceCall.Proofs.Text.Words
import ServiceCall.Proofs.Http.Fields
import ServiceCall.Proofs.Signing.Canonical
import ServiceCall.Proofs.Execution.Bonus
import ServiceCall.Proofs.Execution.Steering
import ServiceCall.Proofs.Skew.Steady
import ServiceCall.Proofs.Skew.Compensation
import ServiceCall.Proofs.Execution.Compensation
import ServiceCall.Proofs.Http.Updates
import ServiceCall.Proofs.Signing.Resigning
import ServiceCall.Proofs.Time.Civil
import ServiceCall.Proofs.Time.Stamp
import ServiceCall.Proofs.Attempt.Info
import ServiceCall.Proofs.Execution.Sends
import ServiceCall.Proofs.Execution.Labels
import ServiceCall.Proofs.Execution.Spending
import ServiceCall.Proofs.Execution.Timing
import ServiceCall.Proofs.Text.Utf8
import ServiceCall.Proofs.Text.Cuts
import ServiceCall.Proofs.Web.Form
import ServiceCall.Proofs.Http.Uri
import ServiceCall.Proofs.Call.Build
import ServiceCall.Proofs.Call.Target
import ServiceCall.Proofs.Signing.Replay
import ServiceCall.Proofs.Execution.Replay
import ServiceCall.Proofs.Execution.Counts
import ServiceCall.Proofs.Execution.Uncancelled
import ServiceCall.Proofs.Execution.Breaks
import ServiceCall.Proofs.Classification
import ServiceCall.Proofs.Execution.Tallies
import ServiceCall.Proofs.Execution.Balance
import ServiceCall.Proofs.Time.Calendar
import ServiceCall.Proofs.Execution.Dates
import ServiceCall.Proofs.Text.Ascii
import ServiceCall.Proofs.Web.Punycode
import ServiceCall.Proofs.Web.Domain
import ServiceCall.Proofs.Web.Ip
import ServiceCall.Proofs.Web.Address
import ServiceCall.Proofs.Http.Absolute
import ServiceCall.Proofs.Web.Authority
import ServiceCall.Proofs.Call.HostPrefix
import ServiceCall.Proofs.Retry.Backoff
import ServiceCall.Proofs.Skew.History
import ServiceCall.Proofs.Call.Composition
import ServiceCall.Proofs.Attempt.Deadline
import ServiceCall.Proofs.Execution.Delays
import ServiceCall.Proofs.Call.Template
import ServiceCall.Proofs.Signing.UserInfo
import ServiceCall.Proofs.Execution.Turns
