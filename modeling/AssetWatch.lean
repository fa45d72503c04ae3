import AssetWatch.Agent
import AssetWatch.Agent.Help
import AssetWatch.Agent.Process
import AssetWatch.Alert
import AssetWatch.AssetName
import AssetWatch.Cache
import AssetWatch.Calendar.Date
import AssetWatch.Calendar.DateTime
import AssetWatch.Calendar.Display
import AssetWatch.Calendar.Reading
import AssetWatch.Calendar.Timestamp
import AssetWatch.Clock
import AssetWatch.CommandLine
import AssetWatch.Config.Configuration
import AssetWatch.Config.Resolve
import AssetWatch.Config.Settings
import AssetWatch.Environment
import AssetWatch.Event
import AssetWatch.Event.Json
import AssetWatch.Files
import AssetWatch.Json.Basic
import AssetWatch.Json.Number
import AssetWatch.Json.Parser
import AssetWatch.Json.Printer
import AssetWatch.Json.Quote
import AssetWatch.Json.Record
import AssetWatch.LineError
import AssetWatch.Log.Diagnostic
import AssetWatch.Log.Directive
import AssetWatch.Log.Entry
import AssetWatch.Log.Filter
import AssetWatch.Log.Logged
import AssetWatch.Log.Pattern
import AssetWatch.Log.Pattern.Depth
import AssetWatch.Main
import AssetWatch.MockTime
import AssetWatch.Monitor
import AssetWatch.Outcome
import AssetWatch.Program
import AssetWatch.Proofs.Agent.IdleLines
import AssetWatch.Proofs.Agent.Intake
import AssetWatch.Proofs.Agent.Verbosity
import AssetWatch.Proofs.Cache.Burst
import AssetWatch.Proofs.Cache.Deadline
import AssetWatch.Proofs.Calendar.Display
import AssetWatch.Proofs.Config.Document
import AssetWatch.Proofs.Config.Validator
import AssetWatch.Proofs.Event.Array
import AssetWatch.Proofs.Event.RoundTrip
import AssetWatch.Proofs.Monitor.Revival
import AssetWatch.Proofs.Monitor.Separation
import AssetWatch.Record
import AssetWatch.Seconds
import AssetWatch.SortedMap
import AssetWatch.Text.Alphanumeric
import AssetWatch.Text.Blank
import AssetWatch.Text.Bytes
import AssetWatch.Text.ControlSequence
import AssetWatch.Text.Decimal
import AssetWatch.Text.Hexadecimal
import AssetWatch.Text.Printable
import AssetWatch.Text.Quoted
import AssetWatch.Text.Ranges
import AssetWatch.Text.Scan
import AssetWatch.Text.Utf8
import AssetWatch.Toml.Basic
import AssetWatch.Toml.Parser
import AssetWatch.Toml.Scalar
import AssetWatch.Toml.Token
import AssetWatch.Validator
