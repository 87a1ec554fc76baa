import Switchyard.Route.Module

/-!
# The echo module

Sends a message back as it came, for trying out large and chunked payloads.
-/

namespace Switchyard.Modules.Echo

open Route

/-- The declared actions. -/
def actions : List Action :=
  [⟨"echo", false, some ⟨["request_msg"], []⟩, ⟨["reply_msg"], []⟩⟩]

/-- Answers the message of the payload. -/
def handle (_ : String) (data : Option Json) (s : Unit) : Handling Unit :=
  match data.bind (Json.get? "request_msg") with
  | some message => ⟨s, .returned (.object [("reply_msg", message)]), [], [], 0⟩
  | none => ⟨s, .failed (.invalidData "request_msg is missing"), [], [], 0⟩

/-- The module. -/
def module : Module :=
  .passive "echo" actions () handle

end Switchyard.Modules.Echo
