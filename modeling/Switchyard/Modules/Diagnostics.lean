import Switchyard.Route.Module
import Switchyard.Supervisor.Fleet

/-!
# The diagnostics module

Runs the programs of a command table, by name.

* `run` and `run_batch` start supervised commands and answer with a process id; `poll` tells how far
  such a process is, and a `finished` event is sent when it has ended.
* `check` waits for a command and answers with its exit code and output.

Before the first child of `run` or `run_batch` is started, the connection to the subscribers is
reopened. Processes are kept in two stores, one for single commands and one for batches.
-/

namespace Switchyard.Modules.Diagnostics

open Route Supervisor

/-- The name of the module. -/
def name : String := "diagnostics"

/-- The declared actions. -/
def actions : List Action :=
  [⟨"run", false, some ⟨["command"], []⟩, ⟨["process_id"], []⟩⟩,
   ⟨"run_batch", false, some ⟨["commands"], []⟩, ⟨["process_id"], []⟩⟩,
   ⟨"poll", false, some ⟨["process_id"], []⟩, ⟨["records", "retval", "exited"], []⟩⟩,
   ⟨"check", false, some ⟨["command"], []⟩, ⟨["retval", "stdout"], []⟩⟩]

/-- Command lines by name. -/
abbrev Table := List (String × List String)

/-- The command table of an installation. -/
def defaultTable : Table :=
  [("uptime", ["/usr/bin/uptime"]), ("addresses", ["/sbin/ip", "-json", "addr"]),
   ("routes", ["/sbin/ip", "-json", "route"]), ("kernel_log", ["/bin/dmesg"])]

/-- Milliseconds that `check` allows a command. -/
def checkLimit : Nat := 10000

/-- Milliseconds that `run` allows a command. -/
def runLimit : Nat := 300000

/-- What the module needs. -/
structure Setup where
  host : Host
  /-- The directory that absolute programs are taken from. -/
  root : Option String
  table : Table
  /-- How many processes of each kind are kept. -/
  capacity : Nat

/-- The processes of the module. -/
structure State where
  commands : Commands
  batches : Batches
  /-- The ids of processes, in the order in which they are given away. -/
  fresh : Nat → String
  /-- How many ids have been given away. -/
  ids : Nat
  /-- Milliseconds since the module was set up. -/
  now : Nat

/-- No process. -/
def State.initial (fresh : Nat → String) (capacity : Nat) : State :=
  ⟨.empty capacity, .empty capacity, fresh, 0, 0⟩

/-- The id that the next process gets. -/
def State.nextId (s : State) : String :=
  s.fresh s.ids

/-- The id of a process: thirty-two hexadecimal digits. -/
def processId (n : Nat) : String :=
  String.ofList (Octets.hexDigits (Octets.bigEndian 16 n))

/-- The record of a process, single commands first. -/
def State.poll? (id : String) (s : State) : Option Record :=
  (Commands.poll? id s.commands).or (Batches.poll? id s.batches)

/-- The payload of a `finished` event. -/
def summary (r : Record) : Json :=
  .ofMembers [("process_id", .string r.id), ("retval", .int r.retval)]

/-! ### Requests -/

/-- The text of a member. -/
def textField (data : Json) (key : String) : Except HandlerError String :=
  match (data.get? key).bind Json.string? with
  | some s => .ok s
  | none => .error (.invalidData (key ++ " must be a string"))

/-- The command line of a name. -/
def lookup (table : Table) (name : String) : Except HandlerError (List String) :=
  match table.find? (·.1 = name) with
  | some (_, args) => .ok args
  | none => .error (.invalidData ("unknown command '" ++ name ++ "'"))

/-- The command lines of a list of names. -/
def lookupAll (table : Table) : List Json → Except HandlerError (List (List String))
  | [] => .ok []
  | .string name :: rest =>
    match lookup table name with
    | .error e => .error e
    | .ok args => (lookupAll table rest).map (args :: ·)
  | _ :: _ => .error (.invalidData "command names must be strings")

/-- The command line that a payload names. -/
def requested (table : Table) (data : Json) : Except HandlerError (List String) :=
  (textField data "command").bind (lookup table)

/-- The command lines that a payload names. -/
def requestedAll (table : Table) (data : Json) : Except HandlerError (List (List String)) :=
  match (data.get? "commands").bind Json.array? with
  | some names => lookupAll table names
  | none => .error (.invalidData "commands must be a list")

/-- A handler that records every line. -/
def lineHandler : Except StartError LineHandler :=
  LineHandler.of ".*" fun groups =>
    .append (.object [("line", .string ((groups.headD none).getD ""))])

/-- The entry of a batch's record for a result. -/
def resultEntry (child : Nat) (j : Json) : Json :=
  .ofMembers [("index", .nat child), ("result", j)]

/-- A request that changed nothing. -/
def answer (s : State) (outcome : Except HandlerError Json) : Handling State :=
  ⟨s, match outcome with | .ok j => .returned j | .error e => .failed e, [], [], 0⟩

/-- A request that tried to start a process. -/
def answerStart (s : State) (hooked : Bool) (result : Except StartError Unit) : Handling State :=
  let posted := if hooked then [Notice.reset] else []
  match result with
  | .ok () =>
    ⟨{ s with ids := s.ids + 1 }, .returned (.object [("process_id", .string s.nextId)]), [],
      posted, 0⟩
  | .error e => ⟨s, .failed (.start e), [], posted, 0⟩

/-- The start of a supervised command that a payload asks for. -/
def startSingle (setup : Setup) (data : Json) (s : State) :
    Except HandlerError (Start (Timed Watch Supervisor.Event)) :=
  match requested setup.table data with
  | .error e => .error e
  | .ok args =>
    match lineHandler with
    | .error e => .error (.start e)
    | .ok h =>
      .ok (startCommand setup.host setup.root s.nextId args [h] (some runLimit) s.now s.commands)

/-- A request that asked for a start, where the store of its kind has its place in the state. -/
def answerAsked {α : Type} (s : State) (place : Store α → State) :
    Except HandlerError (Start α) → Handling State
  | .error e => answer s (.error e)
  | .ok started => answerStart (place started.store) started.hooked started.result

/-- Starts a supervised command. -/
def runCommand (setup : Setup) (data : Json) (s : State) : Handling State :=
  answerAsked s (fun store => { s with commands := store }) (startSingle setup data s)

/-- The start of a batch that a payload asks for. -/
def startSeveral (setup : Setup) (data : Json) (s : State) :
    Except HandlerError (Start (Timed Batch BatchEvent)) :=
  (requestedAll setup.table data).map fun commands =>
    startBatch setup.host setup.root s.nextId commands resultEntry s.now s.batches

/-- Starts a batch. -/
def runBatch (setup : Setup) (data : Json) (s : State) : Handling State :=
  answerAsked s (fun store => { s with batches := store }) (startSeveral setup data s)

/-- Tells how far a process is. -/
def poll (data : Json) (s : State) : Handling State :=
  answer s <|
    match textField data "process_id" with
    | .error e => .error e
    | .ok id =>
      match s.poll? id with
      | some r => .ok (.ofMembers r.state)
      | none => .error (.failed ("unknown process id '" ++ id ++ "'"))

/-- Waits for a command. -/
def check (setup : Setup) (data : Json) (s : State) : Handling State :=
  match requested setup.table data with
  | .error e => answer s (.error e)
  | .ok args =>
    match run setup.host setup.root args (some checkLimit) with
    | .error e => answer s (.error (.command e))
    | .ok f =>
      let reply := Json.ofMembers
        [("retval", .int f.output.retval), ("stdout", .string f.output.stdout)]
      ⟨s, .returned reply, [], [], f.duration⟩

/-- Handles an action. -/
def handle (setup : Setup) (action : String) (data : Option Json) (s : State) : Handling State :=
  let data := data.getD .null
  if action = "run" then runCommand setup data s
  else if action = "run_batch" then runBatch setup data s
  else if action = "poll" then poll data s
  else if action = "check" then check setup data s
  else answer s (.error (.failed ("unsupported action '" ++ action ++ "'")))

/-! ### Time -/

/-- Lets processes run for some milliseconds. Gives the `finished` events in the order in which
the processes ended. -/
def elapse (ms : Nat) (s : State) : State × List Notice :=
  let now := s.now + ms
  let (commands, ended) := Commands.advance now s.commands
  let (batches, endedBatches) := Batches.advance now s.batches
  let reports := (ended ++ endedBatches).mergeSort fun a b => a.1 ≤ b.1
  ({ s with commands := commands, batches := batches, now := now },
    reports.map fun (_, r) => .ofEvent name ("finished", some (summary r)))

/-- The module, without processes. -/
def module (setup : Setup) : Module :=
  ⟨name, actions, State, .initial processId setup.capacity, handle setup, elapse⟩

end Switchyard.Modules.Diagnostics
