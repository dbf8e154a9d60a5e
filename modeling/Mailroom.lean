import Mailroom.Bytes
import Mailroom.CommandLine
import Mailroom.Console.Command
import Mailroom.Console.Report
import Mailroom.Engine.Lifecycle
import Mailroom.Engine.Opening
import Mailroom.Engine.Operation
import Mailroom.Engine.State
import Mailroom.Engine.Transfer
import Mailroom.Event
import Mailroom.Fault
import Mailroom.HandleTable
import Mailroom.Host.Connection
import Mailroom.Host.Handler
import Mailroom.Host.Launch
import Mailroom.Host.Server
import Mailroom.Host.Settings
import Mailroom.Host.Trace
import Mailroom.Ident
import Mailroom.Json.Deferred
import Mailroom.Json.Printer
import Mailroom.Json.Reader
import Mailroom.Json.Value
import Mailroom.Limits
import Mailroom.Mailbox.Basic
import Mailroom.Mailbox.Subscribers
import Mailroom.Main
import Mailroom.Message
import Mailroom.Mode
import Mailroom.Name
import Mailroom.Proofs.Admission
import Mailroom.Proofs.Bytes
import Mailroom.Proofs.Engine.Biographies
import Mailroom.Proofs.Engine.Closings
import Mailroom.Proofs.Engine.Consistency
import Mailroom.Proofs.Engine.Decisions
import Mailroom.Proofs.Engine.Demands
import Mailroom.Proofs.Engine.Edits
import Mailroom.Proofs.Engine.Exhaustion
import Mailroom.Proofs.Engine.Handles
import Mailroom.Proofs.Engine.Inspection
import Mailroom.Proofs.Engine.Intact
import Mailroom.Proofs.Engine.Lifecycle
import Mailroom.Proofs.Engine.Loans
import Mailroom.Proofs.Engine.Opening
import Mailroom.Proofs.Engine.Passage
import Mailroom.Proofs.Engine.Pinning
import Mailroom.Proofs.Engine.Quotas
import Mailroom.Proofs.Engine.Refusals
import Mailroom.Proofs.Engine.Registration
import Mailroom.Proofs.Engine.Renumbering
import Mailroom.Proofs.Engine.Reshaping
import Mailroom.Proofs.Engine.Rollback
import Mailroom.Proofs.Engine.Steps
import Mailroom.Proofs.Engine.Transfer
import Mailroom.Proofs.HandleTable
import Mailroom.Proofs.HandleTable.Turns
import Mailroom.Proofs.History.Chronicle
import Mailroom.Proofs.History.Isolation
import Mailroom.Proofs.History.Journals
import Mailroom.Proofs.History.Messages
import Mailroom.Proofs.History.Moments
import Mailroom.Proofs.History.Queues
import Mailroom.Proofs.History.Reaping
import Mailroom.Proofs.History.Rendezvous
import Mailroom.Proofs.History.Renewal
import Mailroom.Proofs.History.Standing
import Mailroom.Proofs.History.Subscriptions
import Mailroom.Proofs.History.Turns
import Mailroom.Proofs.Host.Lines
import Mailroom.Proofs.Host.Payloads
import Mailroom.Proofs.Host.Replies
import Mailroom.Proofs.Host.Requests
import Mailroom.Proofs.Identifiers
import Mailroom.Proofs.Json.RoundTrip
import Mailroom.Proofs.Mailbox
import Mailroom.Proofs.Name
import Mailroom.Proofs.Name.Forms
import Mailroom.Proofs.Registry
import Mailroom.Proofs.Renumbering
import Mailroom.Proofs.Ring
import Mailroom.Proofs.Ring.BoundedList
import Mailroom.Proofs.Subscribers
import Mailroom.Proofs.Table
import Mailroom.Proofs.Taps
import Mailroom.Proofs.Text.Hex
import Mailroom.Proofs.Text.Numeral
import Mailroom.Proofs.Traffic
import Mailroom.Proofs.Trap.Calls
import Mailroom.Proofs.Trap.Grants
import Mailroom.Proofs.Trap.Memory
import Mailroom.Proofs.Trap.Receipts
import Mailroom.Proofs.Trap.Statuses
import Mailroom.Proofs.Trap.Texts
import Mailroom.Proofs.Waiting.Attempts
import Mailroom.Proofs.Waiting.Custody
import Mailroom.Proofs.Waiting.Departures
import Mailroom.Proofs.Waiting.Failures
import Mailroom.Proofs.Waiting.Order
import Mailroom.Proofs.Waiting.Outcomes
import Mailroom.Proofs.Waiting.Queues
import Mailroom.Proofs.Waiting.Receivers
import Mailroom.Proofs.Waiting.Releases
import Mailroom.Proofs.Waiting.Retries
import Mailroom.Proofs.Waiting.Runs
import Mailroom.Proofs.Waiting.Senders
import Mailroom.Proofs.Waiting.Standing
import Mailroom.Proofs.Waiting.Turns
import Mailroom.Registry
import Mailroom.Ring
import Mailroom.Status
import Mailroom.Text.Numeral
import Mailroom.Text.Pieces
import Mailroom.Text.Quoted
import Mailroom.Waiting.Condition
import Mailroom.Toml.Moment
import Mailroom.Toml.Number
import Mailroom.Toml.Printer
import Mailroom.Toml.Reader
import Mailroom.Toml.Strings
import Mailroom.Toml.Value
import Mailroom.Trap.Call
import Mailroom.Trap.Frame
import Mailroom.Trap.Machine
import Mailroom.Trap.Memory
import Mailroom.Trap.Selector
import Mailroom.Trap.Service
import Mailroom.Waiting.Exchange
import Mailroom.Waiting.Queues
import Mailroom.Waiting.Schedule
import Mailroom.Wire.Event
import Mailroom.Wire.Record
import Mailroom.Wire.Reply
import Mailroom.Wire.Request
import Mailroom.Wire.TrapCall
