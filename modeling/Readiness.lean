import Readiness.AccessLog
import Readiness.Double.Bits
import Readiness.Duration.Parser
import Readiness.Duration.Printer
import Readiness.EnvFile
import Readiness.Gate.Bench
import Readiness.Http.BodyLimit
import Readiness.Http.Response
import Readiness.Json.Parser
import Readiness.Launch
import Readiness.Log.Registry
import Readiness.Main
import Readiness.RequestId
import Readiness.Service.Session
import Readiness.Settings.Basic
import Readiness.Proofs.Double.Order
import Readiness.Proofs.Gate.Outline
import Readiness.Proofs.Clock
import Readiness.Proofs.Gate.Cancelling
import Readiness.Proofs.Gate.Window
import Readiness.Proofs.Gate.Issuing
import Readiness.Proofs.Gate.Live
import Readiness.Proofs.Double.Bounded
import Readiness.Proofs.Instant.Range
import Readiness.Proofs.Gate.Remaining
import Readiness.Proofs.Service.Passage
import Readiness.Proofs.Service.Body
import Readiness.Proofs.Service.Dispatch
import Readiness.Proofs.Gate.Passing
import Readiness.Proofs.Service.Answering
import Readiness.Proofs.Service.Resetting
import Readiness.Proofs.Service.Reachable
import Readiness.Proofs.Json.Numbers
import Readiness.Proofs.Json.RoundTrip
import Readiness.Proofs.Gate.Waiting
import Readiness.Proofs.Service.Probing
import Readiness.Proofs.Double.Unsigned
import Readiness.Proofs.Double.Difference
import Readiness.Proofs.Gate.Countdown
import Readiness.Proofs.Double.Accuracy
import Readiness.Proofs.Double.Whole
import Readiness.Proofs.Double.Closest
import Readiness.Proofs.Duration.Reading
import Readiness.Proofs.Settings.Resolution
import Readiness.Proofs.Launch.Outcomes
import Readiness.Proofs.Http.FieldNames
import Readiness.Proofs.Http.Errors
import Readiness.Proofs.RequestId
import Readiness.Proofs.Service.Recovery
import Readiness.Proofs.Service.Traffic
import Readiness.Proofs.Service.Opacity
import Readiness.Proofs.Service.Conforming
import Readiness.Proofs.Service.Correlation
import Readiness.Proofs.Except
import Readiness.Proofs.Text.Trimmed
import Readiness.Proofs.Text.Digits
import Readiness.Proofs.Duration.Grammar
import Readiness.Proofs.Duration.Exact
import Readiness.Proofs.Duration.Canonical
import Readiness.Proofs.Settings.Selection
import Readiness.Proofs.Settings.Fields
import Readiness.Proofs.Settings.Stability
import Readiness.Proofs.Service.Statuses
import Readiness.Proofs.Service.Table
import Readiness.Proofs.Duration.Whole
import Readiness.Proofs.Duration.Rereading
import Readiness.Proofs.Service.Echo
import Readiness.Proofs.Service.Metering
import Readiness.Proofs.AccessLog
import Readiness.Proofs.Instant.Calendar
import Readiness.Proofs.Instant.Stamp
import Readiness.Proofs.Http.ErrorFields
import Readiness.Proofs.Http.Framing
import Readiness.Proofs.Json.Ascii
import Readiness.Proofs.Log.Calls
import Readiness.Proofs.Log.Reconfiguring
import Readiness.Proofs.Service.Lines
