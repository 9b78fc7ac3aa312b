import SteadyStore.Cause
import SteadyStore.Document
import SteadyStore.DocumentType
import SteadyStore.Duration
import SteadyStore.EnvFile.Assignment
import SteadyStore.EnvFile.Lines
import SteadyStore.EnvFile.Load
import SteadyStore.EnvFile.Reader
import SteadyStore.Error.Conversion
import SteadyStore.Error.Service
import SteadyStore.Error.Store
import SteadyStore.Error.WriteFailure
import SteadyStore.Event
import SteadyStore.Fault
import SteadyStore.Json.Basic
import SteadyStore.Json.Cursor
import SteadyStore.Json.Numeral
import SteadyStore.Json.Reader
import SteadyStore.Json.Writer
import SteadyStore.Logging.Config
import SteadyStore.Logging.Filter
import SteadyStore.Logging.Log
import SteadyStore.NameMap
import SteadyStore.Number.Binary64
import SteadyStore.Number.Decimal
import SteadyStore.Number.Power
import SteadyStore.Number.Shortest
import SteadyStore.Retry.Config
import SteadyStore.Retry.Policy
import SteadyStore.Retry.Run
import SteadyStore.Samples
import SteadyStore.Script
import SteadyStore.Settings.Load
import SteadyStore.Settings.Lookup
import SteadyStore.Settings.Value
import SteadyStore.Settings.Variables
import SteadyStore.Shape.Basic
import SteadyStore.Shape.Timestamp
import SteadyStore.Shape.Uuid
import SteadyStore.Status
import SteadyStore.Store.Basic
import SteadyStore.Store.Memory
import SteadyStore.Store.Retrying
import SteadyStore.Store.Scripted
import SteadyStore.Text.Alphanumeric
import SteadyStore.Text.Blank
import SteadyStore.Text.Bytes
import SteadyStore.Text.Place
import SteadyStore.Text.Quoted
import SteadyStore.Text.Ranges
import SteadyStore.Text.Unprintable
import SteadyStore.TypeName
import SteadyStore.Proofs.Duration.Words
import SteadyStore.Proofs.Retry.Turns
import SteadyStore.Proofs.Retry.Trace
import SteadyStore.Proofs.Retry.FirstSettled
import SteadyStore.Proofs.Retry.WaitingTime
import SteadyStore.Proofs.Cause.Description
import SteadyStore.Proofs.Cause.FirstStatus
import SteadyStore.Proofs.Error.Verdict
import SteadyStore.Proofs.Store.FailedWrite
import SteadyStore.Proofs.NameMap.Entries
import SteadyStore.Proofs.Store.Memory
import SteadyStore.Proofs.Store.Collections
import SteadyStore.Proofs.Store.FlatMap
import SteadyStore.Proofs.Store.ScriptedWrite
import SteadyStore.Proofs.Store.Requests
import SteadyStore.Proofs.Store.Accounts
import SteadyStore.Proofs.Number.Magnitude
import SteadyStore.Proofs.Retry.Record
import SteadyStore.Proofs.Settings.Loading
import SteadyStore.Proofs.Number.Squaring
import SteadyStore.Proofs.Duration.Seconds
import SteadyStore.Proofs.Retry.Backoff
import SteadyStore.Proofs.Retry.Accuracy
import SteadyStore.Proofs.Number.TwoPowers
import SteadyStore.Proofs.Retry.Doubling
import SteadyStore.Proofs.Retry.NoDelay
import SteadyStore.Proofs.TypeName.Splitting
import SteadyStore.Proofs.TypeName.Grammar
import SteadyStore.Proofs.TypeName.Ends
import SteadyStore.Proofs.TypeName.Descriptor
import SteadyStore.Proofs.Json.Paths
import SteadyStore.Proofs.Store.Search
import SteadyStore.Proofs.Error.PassedOn
import SteadyStore.Proofs.EnvFile.Reloading
import SteadyStore.Proofs.EnvFile.Assignments
import SteadyStore.Proofs.Settings.Loaders
import SteadyStore.Proofs.Number.Decimal
import SteadyStore.Proofs.Number.DecimalText
import SteadyStore.Proofs.Settings.Written
import SteadyStore.Proofs.Retry.MoreAttempts
import SteadyStore.Proofs.Retry.FailureReports
import SteadyStore.Proofs.TypeName.References
import SteadyStore.Proofs.TypeName.EnclosingItems
import SteadyStore.Proofs.Error.ChainText
import SteadyStore.Proofs.TypeName.Cuts
import SteadyStore.Proofs.TypeName.Slices
import SteadyStore.Proofs.TypeName.Reduction
import SteadyStore.Proofs.TypeName.Nesting
import SteadyStore.Proofs.TypeName.TupleEntries
