import Switchyard.Rehearsal.Scripted

/-!
# Probes

A probe is a scripted module that is described by a JSON value: a name and a list of actions, each
with its declaration and its behaviour.

* `notify` and `notify_now` list events to raise and to send at once, `reset` reopens the connection
  to the subscribers.
* The action ends with the error under `fail`, crashes with what is under `panic`, answers its own
  payload if `echo` holds, and otherwise answers what is under `ok`.

Probes take the place of the daemon's own modules when a bus is rehearsed. They are no part of it.
-/

namespace Switchyard.Rehearsal.Probe

open Route Supervisor

/-- The text of a member, or no text. -/
def text (j : Json) (key : String) : String :=
  ((j.get? key).bind Json.string?).getD ""

/-- The integer of a member, or zero. -/
def number (j : Json) (key : String) : Int :=
  ((j.get? key).bind Json.int?).getD 0

/-- The items of a member, or none. -/
def list (j : Json) (key : String) : List Json :=
  ((j.get? key).bind Json.array?).getD []

/-- Whether a member is true. -/
def holds (j : Json) (key : String) : Bool :=
  ((j.get? key).bind Json.bool?).getD false

/-- The keys of a payload. -/
def shape (j : Json) : Shape :=
  ⟨(list j "required").filterMap Json.string?, (list j "optional").filterMap Json.string?⟩

/-- The declaration of an action. -/
def action (j : Json) : Action :=
  let request := (j.get? "request").filter Json.isObject
  ⟨text j "name", holds j "mutating", request.map shape, shape ((j.get? "reply").getD .null)⟩

/-- A failure of the system: its number, of which 32 bits count, or its text. -/
def ioError (j : Json) : IoError :=
  match (j.get? "os").bind Json.int? with
  | some errno => .os (errno.bmod 0x100000000)
  | none => .other (text j "other")

/-- What a handler fails with. -/
def error (j : Json) : HandlerError :=
  let source := ioError ((j.get? "source").getD .null)
  let program := text j "program"
  match text j "kind" with
  | "failed" => .failed (text j "message")
  | "invalid_data" => .invalidData (text j "message")
  | "spawn" => .start (.spawn program source)
  | "pipe" => .start (.pipe source)
  | "worker" => .start (.worker source)
  | "lost" => .start .workerLost
  | "empty" => .start .emptyCommand
  | "command_spawn" => .command (.start (.spawn program source))
  | "command_empty" => .command (.start .emptyCommand)
  | "wait" => .command (.wait program source)
  | "status" =>
    .command (.unexpectedStatus program (number j "expected") (number j "actual") (text j "stderr"))
  | _ => .command (.unmatched program (text j "pattern"))

/-- The events under a key. -/
def events (j : Json) (key : String) : List Route.Event :=
  (list j key).map fun e => (text e "event", e.get? "data")

/-- What is told of a crash with something that is no text. -/
def crashText : String := "handler panicked"

/-- The behaviour of an action. `trace` gives the trace of a crash. -/
def script (trace : Json → String) (j : Json) : Script :=
  let ending : Rehearsal.Ending :=
    match j.get? "fail", j.get? "panic" with
    | some e, _ => .fail (error e)
    | none, some what => .crash (what.string?.getD crashText) (trace j)
    | none, none => if holds j "echo" then .echo else .answer ((j.get? "ok").getD .null)
  ⟨action j, events j "notify", events j "notify_now", holds j "reset", ending⟩

/-- A probe. -/
def module (trace : Json → String) (j : Json) : Module :=
  scripted (text j "name") ((list j "actions").map (script trace))

end Switchyard.Rehearsal.Probe
