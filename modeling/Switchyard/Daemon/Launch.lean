import Switchyard.Daemon.Bootstrap
import Switchyard.Notify.Socket
import Switchyard.Socket.Connection
import Switchyard.Socket.Listener

/-!
# Running the daemon

`serve` runs a daemon from its start to its end: it is made ready, takes its place on the bus,
answers what comes there, and leaves its place when it is told to stop. On the request socket every
connection is served and every notice goes to the subscribers.
-/

namespace Switchyard.Daemon

open Route Settings

/-- Why the daemon ended. -/
inductive LaunchError where
  | bootstrap (e : BootstrapError)
  | listener (e : Socket.ListenerError)
  | notify (e : Notify.Error)
  | ubus (e : Bus.Error)
  /-- Signals could not be waited for. -/
  | shutdown (e : IoError)

/-- The error in words. -/
def LaunchError.message : LaunchError → String
  | bootstrap e => "daemon bootstrap failed: " ++ e.message
  | listener e => "daemon socket listener failed: " ++ e.message
  | notify e => "notification queue failed: " ++ e.message
  | ubus e => "ubus listener failed: " ++ e.message
  | shutdown e =>
    "failed to await shutdown signal: failed to install signal handlers: " ++ e.message

/-- How a run of the daemon went. -/
structure Run (α : Type) where
  events : List HealthEvent
  result : Except LaunchError Unit
  tree : Files.Tree
  /-- What was made of the requests; none if the daemon never took any. -/
  work : Option α

/-- Takes the daemon's place on the bus. Only the request socket needs one in the file system. -/
def takePlace (net : Socket.Network) (s : Settings) (t : Files.Tree) :
    Except Socket.ListenerError Files.Tree :=
  match s.bus with
  | .unixSocket => Socket.listen net t s.daemonSocket
  | .ubus | .mqtt => .ok t

/-- Leaves the daemon's place on the bus. -/
def leavePlace (s : Settings) (t : Files.Tree) : Files.Tree :=
  match s.bus with
  | .unixSocket => Socket.unlisten t s.daemonSocket
  | .ubus | .mqtt => t

/-- Runs a daemon; `work` is what it does for requests until it is told to stop, and `signal` how
waiting for that ended. -/
def serve {α : Type} (net : Socket.Network) (loaded : Except LoadError Settings)
    (modules : Settings → List Module) (work : Ready → α) (signal : Except IoError Unit)
    (t : Files.Tree) : Run α :=
  let (prepared, t) := prepare loaded modules t
  let events := bootstrapEvents prepared
  match prepared with
  | .error e => ⟨events, .error (.bootstrap e), t, none⟩
  | .ok ready =>
    match takePlace net ready.settings t with
    | .error e => ⟨events, .error (.listener e), t, none⟩
    | .ok t =>
      let bus := ready.settings.bus
      ⟨events ++ [.listening bus ready.registry.length, .stopped bus],
        (match signal with | .ok () => .ok () | .error e => .error (.shutdown e)),
        leavePlace ready.settings t, some (work ready)⟩

/-! ### Requests on the socket -/

/-- Serves connections one after another: the replies, and all notices in order. -/
def serveAll (r : Registry) : List Octets → List (Option Octets) × List Notice
  | [] => ([], [])
  | arrived :: rest =>
    let s := Socket.serve r [.bytes arrived]
    let (replies, notices) := serveAll s.registry rest
    (s.reply :: replies, s.notices ++ notices)

end Switchyard.Daemon
