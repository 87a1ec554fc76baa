import Switchyard.Call.Handle
import Switchyard.Modules.Builtin
import Switchyard.PubSub.Request
import Switchyard.Settings.AllowList
import Switchyard.Rehearsal.Shell.Run
import Switchyard.Socket.Connection

/-!
# Rehearsing requests

A session is a registry whose programs run on a small machine of their own, together with what the
buses remember between requests. Requests come in one after another over any bus; time passes only
while a handler works or while the end of a process is awaited.

Rehearsals stand beside the daemon: they play its callers, its peers and the system below it, so
that the definitions of the daemon can be run from outside. Nothing outside `Rehearsal` imports
them, and no result is about them.
-/

namespace Switchyard.Rehearsal

open Route

/-- A registry and what its buses remember. -/
structure Session where
  registry : Registry
  topics : PubSub.Topics
  assembler : Call.Assembler
  /-- The processes that have ended, with the notifications that tell so. -/
  ended : List (String × Envelope)

/-- What became of a request. -/
structure Answered where
  session : Session
  reply : Option Envelope
  /-- What was sent to the notification queue. -/
  notices : List Notice

/-- The registry for a list of allowed modules, a root for programs and a number of processes. -/
def builtinRegistry (modules root : Option String) (capacity : Nat) : Registry :=
  .build (Settings.allowList modules)
    (Modules.builtin ⟨Shell.host Shell.baseTree, root, Modules.Diagnostics.defaultTable, capacity⟩)

namespace Session

/-- A session without requests so far. -/
def start (r : Registry) (controller : String) : Session :=
  ⟨r, ⟨controller⟩, .empty, []⟩

/-- The process whose end a notice tells. -/
def endedProcess? : Notice → Option (String × Envelope)
  | .notify e => ((e.data.bind (Json.get? "process_id")).bind Json.string?).map fun id => (id, e)
  | .reset => none

/-- Lets time pass. -/
def elapse (ms : Nat) (s : Session) : Session :=
  let (r, notices) := s.registry.elapse ms
  { s with registry := r, ended := s.ended ++ notices.filterMap endedProcess? }

/-- Takes note of a request that was dispatched. -/
def dispatched (d : Dispatched) (s : Session) : Answered :=
  ⟨{ s with registry := d.registry }.elapse d.duration, some d.reply, d.notices⟩

/-- A request as a value. -/
def dispatch (j : Json) (s : Session) : Answered :=
  s.dispatched (Route.dispatch s.registry j)

/-- A request as text. -/
def dispatchBytes (payload : Octets) (s : Session) : Answered :=
  s.dispatched (Route.dispatchBytes s.registry payload)

/-- A connection to the request socket. -/
def connect (arrived : Octets) (s : Session) : Answered × Socket.Served :=
  let served := Socket.serve s.registry [.bytes arrived]
  let reply := served.reply.bind fun p => (Envelope.decoder.parse p).toOption
  (⟨{ s with registry := served.registry }.elapse served.duration, reply, served.notices⟩, served)

/-- A call on a bus object. -/
def call (module action : String) (params : Json.Members) (s : Session) : Answered :=
  let h := Call.handleCall s.registry s.assembler module action params
  let s := { s with registry := h.registry, assembler := h.assembler }
  ⟨s.elapse h.duration, h.reply, h.notices⟩

/-- A publication; also the topic of the reply. Nothing happens if it is no request. -/
def publish (topic : String) (payload : Octets) (s : Session) : Option (Answered × String) :=
  (PubSub.handlePublish s.registry s.topics topic payload).map fun p =>
    (⟨{ s with registry := p.registry }.elapse p.duration, some p.reply, p.notices⟩, p.topic)

/-- Calls a handler without any check. Also gives its outcome and the events that it raised. -/
def handle (module action : String) (data : Option Json) (s : Session) :
    Option (Answered × Outcome × List Route.Event) :=
  (s.registry.find? module).map fun m =>
    let h := m.handle action data m.state
    let r := s.registry.register { m with state := h.state }
    (⟨{ s with registry := r }.elapse h.duration, none, h.posted⟩, h.outcome, h.raised)

/-- Lets time pass until a process has ended, at most so many hundredths of a second. -/
def await (id : String) : (fuel : Nat) → Session → Session
  | 0, s => s
  | fuel + 1, s => if s.ended.any (·.1 = id) then s else await id fuel (s.elapse 10)

/-- The notification that tells of the end of a process. -/
def endOf? (id : String) (s : Session) : Option Envelope :=
  (s.ended.find? (·.1 = id)).map (·.2)

/-- Asks how far a process is. -/
def pollProcess (id : String) (s : Session) : Answered :=
  s.dispatch (Envelope.request Modules.Diagnostics.name "poll"
    (some (.object [("process_id", .string id)]))).toJson

end Session
end Switchyard.Rehearsal
