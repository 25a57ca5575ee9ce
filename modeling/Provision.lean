import Provision.Catalog.Kinds
import Provision.Catalog.Resources
import Provision.Decimal.Shortest
import Provision.Engine.Basic
import Provision.Engine.Dependency
import Provision.Engine.Dispatch
import Provision.Envelope
import Provision.Error
import Provision.Event
import Provision.Flags
import Provision.Guard.Session
import Provision.Guard.Table
import Provision.Json.Number
import Provision.Json.Quoted
import Provision.Json.Reader
import Provision.Json.Shape
import Provision.Json.Skip
import Provision.Json.Value
import Provision.Logging.Config
import Provision.Logging.Directive
import Provision.Logging.Filter
import Provision.Logging.Format
import Provision.Logging.Level
import Provision.Logging.Trace
import Provision.Node
import Provision.Object.Key
import Provision.Object.Record
import Provision.Object.Wire
import Provision.Pattern.Automaton
import Provision.Pattern.Basic
import Provision.Pattern.CharSet
import Provision.Pattern.Reader
import Provision.Program
import Provision.Proofs.Dependency.Acyclic
import Provision.Proofs.Dependency.AllOrNothing
import Provision.Proofs.Dependency.Anchored
import Provision.Proofs.Dependency.Drain
import Provision.Proofs.Dependency.FailedCreate
import Provision.Proofs.Dependency.Granted
import Provision.Proofs.Dependency.Overlooked
import Provision.Proofs.Dependency.Owned
import Provision.Proofs.Dependency.Panicked
import Provision.Proofs.Dependency.Released
import Provision.Proofs.Dependency.Reliance
import Provision.Proofs.Dependency.Single
import Provision.Proofs.Dependency.UnderWay
import Provision.Proofs.Engine.Assembly
import Provision.Proofs.Engine.Conduct
import Provision.Proofs.Engine.Decision
import Provision.Proofs.Engine.Dispatch
import Provision.Proofs.Engine.Framing
import Provision.Proofs.Engine.Independence
import Provision.Proofs.Engine.Isolation
import Provision.Proofs.Engine.Outage
import Provision.Proofs.Engine.Registration
import Provision.Proofs.Engine.Reservation
import Provision.Proofs.Envelope.RoundTrip
import Provision.Proofs.Envelope.Success
import Provision.Proofs.Envelope.Wire
import Provision.Proofs.Guard.Accounts
import Provision.Proofs.Guard.Apart
import Provision.Proofs.Guard.Balance
import Provision.Proofs.Guard.Deadlock
import Provision.Proofs.Guard.Holders
import Provision.Proofs.Guard.LiveCount
import Provision.Proofs.Guard.Lock
import Provision.Proofs.Guard.OneLock
import Provision.Proofs.Guard.SelfWait
import Provision.Proofs.Guard.Traffic
import Provision.Proofs.Guard.Undisturbed
import Provision.Proofs.Guard.Waiting
import Provision.Proofs.Json.Decoded
import Provision.Proofs.Json.Number
import Provision.Proofs.Json.Quoted
import Provision.Proofs.Json.Reread
import Provision.Proofs.Json.Skipped
import Provision.Proofs.Json.Struct
import Provision.Proofs.Json.Typed
import Provision.Proofs.Json.Untyped
import Provision.Proofs.Json.WellFormed
import Provision.Proofs.Logging.Account
import Provision.Proofs.Logging.Agreement
import Provision.Proofs.Logging.Lines
import Provision.Proofs.Logging.Made
import Provision.Proofs.Logging.Told
import Provision.Proofs.Object.Wire
import Provision.Proofs.Run.Completed
import Provision.Proofs.Run.Ends
import Provision.Proofs.Run.History
import Provision.Proofs.Run.Orderly
import Provision.Proofs.Run.Passage
import Provision.Proofs.Run.Waits
import Provision.Proofs.Store.Facts
import Provision.Proofs.Store.Ledger
import Provision.Proofs.Store.Search
import Provision.Proofs.Workload.Kinds
import Provision.Proofs.Workload.State
import Provision.Proofs.Workload.Stored
import Provision.Resource
import Provision.Script
import Provision.Session
import Provision.Store.Call
import Provision.Store.Fault
import Provision.Store.Memory
import Provision.Text.Alphanumeric
import Provision.Text.Blank
import Provision.Text.Bytes
import Provision.Text.Inspect
import Provision.Text.Part
import Provision.Text.Ranges
import Provision.Text.Unprintable
import Provision.Workload
