import Switchyard.Bus.Client
import Switchyard.Bus.Notifier
import Switchyard.Call.Handle

/-!
# Workers on the object bus

A worker registers an object for every module of its registry and then answers calls.

* `Worker.start` registers the objects in the order of the modules; the first failure ends it.
* `Worker.step` handles one call. A call on an object that was not registered gets status 4 and
  nothing else; any other call gets its reply in chunks and status 0.
* `plan` says which modules share a worker.
-/

namespace Switchyard.Bus

open Route Call

/-- The status of a call that was handled. -/
def statusOk : UInt32 := 0

/-- The status of a call on an object that was not registered. -/
def statusNotFound : UInt32 := 4

/-- A worker that has registered its objects. -/
structure Worker where
  client : Client
  registry : Registry
  /-- The module behind each object, the latest registration first. -/
  objects : List (UInt32 × String)
  assembler : Assembler

/-- What a step of a worker did besides writing to the bus. -/
structure Progress where
  worker : Worker
  /-- Why the worker ends, if it does. -/
  failure : Option Error
  /-- What was sent to the notification queue. -/
  notices : List Notice
  /-- Milliseconds a handler took. -/
  duration : Nat

namespace Worker

/-- Registers an object for each module. -/
def register (w : Worker) : List Module → Except Error Unit × Worker
  | [] => (.ok (), w)
  | m :: rest =>
    match w.client.addObject (objectName m.name) (m.actions.map (·.name)) with
    | (.error e, c) => (.error e, { w with client := c })
    | (.ok object, c) =>
      register { w with client := c, objects := (object, m.name) :: w.objects } rest

/-- A worker that registers its objects on a connection. -/
def start (r : Registry) (c : Client) : Except Error Unit × Worker :=
  register ⟨c, r, [], .empty⟩ r

/-- The module that an object was registered for. -/
def moduleOf? (w : Worker) (object : UInt32) : Option String :=
  (w.objects.find? (·.1 = object)).map (·.2)

/-- Answers a call. -/
def answer (call : Invocation) (w : Worker) : Progress :=
  match w.moduleOf? call.object with
  | none => ⟨{ w with client := w.client.reply call [] statusNotFound }, none, [], 0⟩
  | some module =>
    let h := handleCall w.registry w.assembler module call.method call.data
    let payloads := (h.reply.map replyPayloads).getD []
    ⟨{ w with
        client := w.client.reply call payloads statusOk
        registry := h.registry
        assembler := h.assembler },
      none, h.notices, h.duration⟩

/-- Polls once and answers the call there may be. -/
def step (w : Worker) : Progress :=
  match w.client.poll with
  | (.error e, c) => ⟨{ w with client := c }, some e, [], 0⟩
  | (.ok none, c) => ⟨{ w with client := c }, none, [], 0⟩
  | (.ok (some call), c) => { w with client := c }.answer call

/-- At most so many steps, or up to a failure. -/
def run : (steps : Nat) → Worker → Progress
  | 0, w => ⟨w, none, [], 0⟩
  | steps + 1, w =>
    let p := w.step
    match p.failure with
    | some _ => p
    | none =>
      let q := run steps p.worker
      { q with notices := p.notices ++ q.notices, duration := p.duration + q.duration }

end Worker

/-- Which modules share a worker: all, or none with another. -/
def plan (single : Bool) (r : Registry) : List Registry :=
  if single then [r] else r.names.map r.only

end Switchyard.Bus
