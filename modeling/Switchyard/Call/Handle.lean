import Switchyard.Call.Assembler
import Switchyard.Call.Chunks
import Switchyard.Call.Params
import Switchyard.Route.Dispatch

/-!
# Calls on bus objects

A call names a module and an action and carries parameters; `handleCall` makes a request of them.
While chunks of a payload are still expected there is no reply.
-/

namespace Switchyard.Call

open Route

/-- What became of a call. -/
structure Handled where
  /-- The reply; none while chunks are expected. -/
  reply : Option Envelope
  notices : List Notice
  registry : Registry
  assembler : Assembler
  /-- Milliseconds the handler took. -/
  duration : Nat

/-- Dispatches a request with a payload. -/
def dispatchCall (r : Registry) (a : Assembler) (module action : String) (data : Option Json) :
    Handled :=
  let d := dispatch r (Envelope.request module action data).toJson
  ⟨some d.reply, d.notices, d.registry, a, d.duration⟩

/-- Handles a call with these members as parameters. -/
def handleCall (r : Registry) (a : Assembler) (module action : String) (params : Json.Members) :
    Handled :=
  let failed (a : Assembler) (e : ErrorRecord) : Handled :=
    ⟨some (.errorReply module action e), [], r, a, 0⟩
  match Params.decoder.value (.object params) with
  | .error c => failed a ⟨incorrectInput, c.message⟩
  | .ok p =>
    if p.multipart then
      match a.feed p.requestId (p.chunk.getD "") p.last with
      | (.pending, a) => ⟨none, [], r, a, 0⟩
      | (.failed, a) => failed a ⟨multipartFailure, ""⟩
      | (.complete data, a) => dispatchCall r a module action (some data)
    else dispatchCall r a module action p.payload

/-- The payloads that carry a reply's text, one for each chunk. -/
def replyPayloads (reply : Envelope) : List Json.Members :=
  (splitChunks reply.encode chunkLimit).map fun chunk => [("data", .string chunk)]

end Switchyard.Call
