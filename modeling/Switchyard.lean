import Switchyard.Bus.Attribute
import Switchyard.Bus.Builder
import Switchyard.Bus.Client
import Switchyard.Bus.Failure
import Switchyard.Bus.Field
import Switchyard.Bus.Item
import Switchyard.Bus.Message
import Switchyard.Bus.Notifier
import Switchyard.Bus.Worker
import Switchyard.Call.Assembler
import Switchyard.Call.Chunks
import Switchyard.Call.Handle
import Switchyard.Call.Params
import Switchyard.Daemon.Bootstrap
import Switchyard.Daemon.Launch
import Switchyard.Envelope
import Switchyard.Files.Path
import Switchyard.Files.Tree
import Switchyard.Frame
import Switchyard.Json.Basic
import Switchyard.Json.Decoder
import Switchyard.Json.Double
import Switchyard.Json.Fault
import Switchyard.Json.Printer
import Switchyard.Json.Reader
import Switchyard.Json.Tagged
import Switchyard.Lock.Basic
import Switchyard.Lock.Crew
import Switchyard.Lock.Settle
import Switchyard.Modules.Builtin
import Switchyard.Modules.Diagnostics
import Switchyard.Modules.Dns
import Switchyard.Modules.Echo
import Switchyard.Notify.Failure
import Switchyard.Notify.Queue
import Switchyard.Notify.Socket
import Switchyard.Octets
import Switchyard.Pattern.Basic
import Switchyard.Pattern.Parser
import Switchyard.Pattern.Program
import Switchyard.Pattern.Search
import Switchyard.Pattern.Size
import Switchyard.Proofs.Broadcasts
import Switchyard.Proofs.Bus.Attribute
import Switchyard.Proofs.Bus.Builder
import Switchyard.Proofs.Bus.Client
import Switchyard.Proofs.Bus.Delivery
import Switchyard.Proofs.Bus.Event
import Switchyard.Proofs.Bus.Field
import Switchyard.Proofs.Bus.Item
import Switchyard.Proofs.Bus.Layout
import Switchyard.Proofs.Bus.Limits
import Switchyard.Proofs.Bus.Message
import Switchyard.Proofs.Bus.Plan
import Switchyard.Proofs.Bus.Reply
import Switchyard.Proofs.Bus.Table
import Switchyard.Proofs.Bus.Worker
import Switchyard.Proofs.Buses
import Switchyard.Proofs.Call.Assembler
import Switchyard.Proofs.Call.Chunks
import Switchyard.Proofs.Call.Handle
import Switchyard.Proofs.Call.Layout
import Switchyard.Proofs.Call.Outcome
import Switchyard.Proofs.Envelope
import Switchyard.Proofs.Files.Tree
import Switchyard.Proofs.Frame
import Switchyard.Proofs.Json.Budget
import Switchyard.Proofs.Json.Decoder
import Switchyard.Proofs.Json.Equality
import Switchyard.Proofs.Json.Ordered
import Switchyard.Proofs.Json.Printer
import Switchyard.Proofs.Json.ReadBack
import Switchyard.Proofs.Json.Scalars
import Switchyard.Proofs.Json.Spelling
import Switchyard.Proofs.Json.Widths
import Switchyard.Proofs.Lock.Exclusion
import Switchyard.Proofs.Lock.Preference
import Switchyard.Proofs.Lock.Progress
import Switchyard.Proofs.Modules.Diagnostics
import Switchyard.Proofs.Modules.Dns
import Switchyard.Proofs.Modules.Output
import Switchyard.Proofs.Modules.Starts
import Switchyard.Proofs.Notify.Queue
import Switchyard.Proofs.Notify.Socket
import Switchyard.Proofs.Octets
import Switchyard.Proofs.Pattern.Line
import Switchyard.Proofs.PubSub.Filter
import Switchyard.Proofs.PubSub.Request
import Switchyard.Proofs.PubSub.Session
import Switchyard.Proofs.Route.Answer
import Switchyard.Proofs.Route.Check
import Switchyard.Proofs.Route.Dependence
import Switchyard.Proofs.Route.Dispatch
import Switchyard.Proofs.Route.Payload
import Switchyard.Proofs.Route.Registry
import Switchyard.Proofs.Route.ReplyLength
import Switchyard.Proofs.Route.Run
import Switchyard.Proofs.Route.Schema
import Switchyard.Proofs.Settings.AllowList
import Switchyard.Proofs.Settings.Directory
import Switchyard.Proofs.Settings.Endpoint
import Switchyard.Proofs.Socket.Connection
import Switchyard.Proofs.Socket.ReplyLimit
import Switchyard.Proofs.Stream.Source
import Switchyard.Proofs.Supervisor.Batch
import Switchyard.Proofs.Supervisor.Deadline
import Switchyard.Proofs.Supervisor.Fleet
import Switchyard.Proofs.Supervisor.Hearing
import Switchyard.Proofs.Supervisor.Life
import Switchyard.Proofs.Supervisor.Lines
import Switchyard.Proofs.Supervisor.Polling
import Switchyard.Proofs.Supervisor.Reading
import Switchyard.Proofs.Supervisor.Record
import Switchyard.Proofs.Supervisor.Snapshots
import Switchyard.Proofs.Supervisor.Start
import Switchyard.Proofs.Supervisor.Store
import Switchyard.Proofs.Supervisor.Verdict
import Switchyard.Proofs.Supervisor.Watch
import Switchyard.Proofs.Text.Lines
import Switchyard.Proofs.Text.Utf8
import Switchyard.Proofs.Text.WellFormed
import Switchyard.Proofs.Url.Address
import Switchyard.Proofs.Url.Authority
import Switchyard.Proofs.Url.Host
import Switchyard.Proofs.Url.Path
import Switchyard.PubSub.Request
import Switchyard.PubSub.Session
import Switchyard.PubSub.Topics
import Switchyard.Rehearsal.Fleet
import Switchyard.Rehearsal.Mask
import Switchyard.Rehearsal.Network
import Switchyard.Rehearsal.ObjectBus
import Switchyard.Rehearsal.Probe
import Switchyard.Rehearsal.Program
import Switchyard.Rehearsal.Scripted
import Switchyard.Rehearsal.Session
import Switchyard.Rehearsal.Shell.Arithmetic
import Switchyard.Rehearsal.Shell.Basic
import Switchyard.Rehearsal.Shell.Commands
import Switchyard.Rehearsal.Shell.Escape
import Switchyard.Rehearsal.Shell.Number
import Switchyard.Rehearsal.Shell.Parser
import Switchyard.Rehearsal.Shell.Printf
import Switchyard.Rehearsal.Shell.Programs
import Switchyard.Rehearsal.Shell.Run
import Switchyard.Rehearsal.Shell.State
import Switchyard.Rehearsal.Subscriber
import Switchyard.Route.Action
import Switchyard.Route.Dispatch
import Switchyard.Route.Failure
import Switchyard.Route.Module
import Switchyard.Settings.AllowList
import Switchyard.Settings.Basic
import Switchyard.Settings.Choice
import Switchyard.Settings.Endpoint
import Switchyard.Settings.Flags
import Switchyard.Settings.Load
import Switchyard.Settings.Variables
import Switchyard.Socket.Connection
import Switchyard.Socket.Listener
import Switchyard.Stream.Failure
import Switchyard.Stream.Sink
import Switchyard.Stream.Source
import Switchyard.Supervisor.Batch
import Switchyard.Supervisor.CommandLine
import Switchyard.Supervisor.Conduct
import Switchyard.Supervisor.Deadline
import Switchyard.Supervisor.Failure
import Switchyard.Supervisor.Fleet
import Switchyard.Supervisor.Lines
import Switchyard.Supervisor.Record
import Switchyard.Supervisor.Start
import Switchyard.Supervisor.Watch
import Switchyard.Text.Age
import Switchyard.Text.Category
import Switchyard.Text.CodeMap
import Switchyard.Text.CodeSet
import Switchyard.Text.Combining
import Switchyard.Text.Composites
import Switchyard.Text.Composition
import Switchyard.Text.Direction
import Switchyard.Text.Folding
import Switchyard.Text.Joining
import Switchyard.Text.Property
import Switchyard.Text.Quoted
import Switchyard.Text.Script
import Switchyard.Text.Segment
import Switchyard.Text.Trait
import Switchyard.Text.Utf8
import Switchyard.Text.Word
import Switchyard.Url.Address
import Switchyard.Url.Basic
import Switchyard.Url.Domain
import Switchyard.Url.Host
import Switchyard.Url.Mapping
import Switchyard.Url.Punycode
