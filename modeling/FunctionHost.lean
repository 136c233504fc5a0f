import FunctionHost.ActivityLog.Settings
import FunctionHost.ActivityLog.Writer
import FunctionHost.Binary64.Basic
import FunctionHost.Binary64.Shortest
import FunctionHost.Binary64.Text
import FunctionHost.Fault.Basic
import FunctionHost.Fault.Chain
import FunctionHost.Fault.Kind
import FunctionHost.Fault.Wire
import FunctionHost.Greeter.Hello
import FunctionHost.Host.Dotenv
import FunctionHost.Host.Launch
import FunctionHost.Json.Error
import FunctionHost.Json.Reader
import FunctionHost.Json.Shape
import FunctionHost.Json.Stream
import FunctionHost.Json.Value
import FunctionHost.Json.Writer
import FunctionHost.Logging.Filter
import FunctionHost.Logging.Global
import FunctionHost.Logging.Pattern
import FunctionHost.Logging.Record
import FunctionHost.Main
import FunctionHost.Payload.Access
import FunctionHost.Server.Handler
import FunctionHost.Server.Invocation
import FunctionHost.Server.Lifecycle
import FunctionHost.Server.Router
import FunctionHost.Server.Settings
import FunctionHost.State.Scope
import FunctionHost.State.Store
import FunctionHost.Text.Alnum
import FunctionHost.Text.Base64
import FunctionHost.Text.Blank
import FunctionHost.Text.Canonical
import FunctionHost.Text.Numeral
import FunctionHost.Text.Ranges
import FunctionHost.Text.Utf8
import FunctionHost.Time.Duration
import FunctionHost.Time.Moment
import FunctionHost.Time.Phrase
import FunctionHost.Transport.Client
import FunctionHost.Transport.Exchange
import FunctionHost.Transport.Failure
import FunctionHost.Transport.Retry
import FunctionHost.Transport.Settings
import FunctionHost.Url.CharClass
import FunctionHost.Url.Encode
import FunctionHost.Url.Host
import FunctionHost.Url.Idna
import FunctionHost.Url.Mapping
import FunctionHost.Url.Parse
import FunctionHost.Proofs.OptimisticSet
import FunctionHost.Proofs.LogShipping
import FunctionHost.Proofs.InvocationOutcome
import FunctionHost.Proofs.RequestMetadata
import FunctionHost.Proofs.ChainClassification
import FunctionHost.Proofs.ShutdownReadiness
import FunctionHost.Proofs.SetRounds
import FunctionHost.Proofs.KeyPaths
import FunctionHost.Proofs.ChainMessage
import FunctionHost.Proofs.EnvelopeWire
import FunctionHost.Proofs.StoreCalls
import FunctionHost.Proofs.BackoffSchedule
import FunctionHost.Proofs.SettingsReading
import FunctionHost.Proofs.QueryPairs
import FunctionHost.Proofs.ScopeEncoding
import FunctionHost.Proofs.RetryAttempts
