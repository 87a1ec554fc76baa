import Switchyard.Envelope
import Switchyard.Supervisor.Failure

/-!
# Failures of requests

* `HandlerError` is what a module's handler may fail with.
* `Refusal` is why a request got no payload: it was not acceptable, or its handler failed.
* `Refusal.record` is the error record of the reply. A caller cannot tell which part of a message
  was at fault from its description, only from the details.
-/

namespace Switchyard.Route

/-- What a handler may fail with. -/
inductive HandlerError where
  /-- The request is refused. -/
  | failed (text : String)
  /-- The payload cannot be used. -/
  | invalidData (text : String)
  /-- A helper command failed. -/
  | command (e : Supervisor.CommandError)
  /-- A supervised command could not be started. -/
  | start (e : Supervisor.StartError)
  deriving DecidableEq

namespace HandlerError

/-- The error in words. -/
def message : HandlerError → String
  | failed text => text
  | invalidData text => "invalid data: " ++ text
  | command _ => "backend command failed"
  | start _ => "failed to start supervised command"

/-- The error and what is behind it. -/
def chain (e : HandlerError) : List String :=
  e.message ::
    match e with
    | command e => e.chain
    | start e => e.chain
    | failed _ | invalidData _ => []

end HandlerError

/-- A rule of the envelope or of an action that a value breaks, and where. -/
structure Violation where
  path : String
  text : String
  deriving DecidableEq

/-- The violation in words. -/
def Violation.message (v : Violation) : String :=
  v.path ++ ": " ++ v.text

/-- Why a request got no payload. -/
inductive Refusal where
  /-- The envelope, the payload or the handler's answer breaks a rule. -/
  | invalid (v : Violation)
  /-- The message is no request. -/
  | wrongKind (kind : String)
  /-- No module or no action of this name is registered. -/
  | unknownRoute (module action : String)
  /-- The handler failed. -/
  | handler (message trace : String)
  /-- The handler crashed. -/
  | crash (message trace : String)
  deriving DecidableEq

namespace Refusal

/-- The refusal for a handler's error. -/
def ofHandler (e : HandlerError) : Refusal :=
  .handler e.message (trace e.chain)

/-- The error record of the reply. -/
def record : Refusal → ErrorRecord
  | invalid v => ⟨incorrectInput, v.message⟩
  | wrongKind _ => ⟨Switchyard.wrongKind, ""⟩
  | unknownRoute .. => ⟨incorrectInput, "request does not match any registered action"⟩
  | handler message trace => ⟨message, trace⟩
  | crash message trace => ⟨message, trace⟩

/-- The refusal in words. -/
def message : Refusal → String
  | invalid v => "invalid input: " ++ v.message
  | wrongKind kind => "wrong message kind '" ++ kind ++ "'"
  | unknownRoute module action => "no handler registered for " ++ module ++ "." ++ action
  | handler text _ => "handler failed: " ++ text
  | crash text _ => "handler panicked: " ++ text

end Refusal
end Switchyard.Route
