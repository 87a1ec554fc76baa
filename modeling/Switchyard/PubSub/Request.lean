import Switchyard.PubSub.Topics
import Switchyard.Route.Dispatch

/-!
# Requests on the pub/sub bus

A publication on a request topic is a request when its body is JSON and names the id that the reply
is to be published under. Anything else is passed over: no handler is called and nothing is sent.
-/

namespace Switchyard.PubSub

open Route

/-- What became of a publication that is a request. -/
structure Published where
  /-- The topic of the reply. -/
  topic : String
  reply : Envelope
  notices : List Notice
  registry : Registry
  /-- Milliseconds the handler took. -/
  duration : Nat

/-- Answers a publication; `none` for one that is no request. -/
def handlePublish (r : Registry) (t : Topics) (topic : String) (payload : Octets) :
    Option Published :=
  match t.parseRequest? topic, Json.parse? payload with
  | some (module, action), some body =>
    match (body.get? "reply_msg_id").bind Json.string? with
    | some messageId =>
      let d := dispatch r (Envelope.request module action (body.get? "data")).toJson
      some ⟨t.reply messageId, d.reply, d.notices, d.registry, d.duration⟩
    | none => none
  | _, _ => none

end Switchyard.PubSub
