import Switchyard.Route.Module

/-!
# Dispatch

One request envelope in, one reply envelope out, whatever the request holds and whatever its
handler does.

* The envelope, its kind, the route and the payload are checked in this order before the handler is
  called; the handler's answer is checked after that.
* Events that the handler raised are broadcast only when the action is a mutating one and the reply
  carries a payload.
* Module and action of the reply are those of the request, or empty where it has no such text.
-/

namespace Switchyard.Route

/-- What became of a request. -/
structure Dispatched where
  reply : Envelope
  /-- What was sent to the notification queue while the handler ran. -/
  posted : List Notice
  /-- What the request itself sent to the notification queue after that. -/
  published : List Notice
  registry : Registry
  /-- Milliseconds the handler took. -/
  duration : Nat

/-- What was sent to the notification queue, in order. -/
def Dispatched.notices (d : Dispatched) : List Notice :=
  d.posted ++ d.published

/-- The text of a member, or no text. -/
def echoed (j : Json) (key : String) : String :=
  ((j.get? key).bind Json.string?).getD ""

/-- The checks before the handler is called: the module, the action and the payload. -/
def accept (r : Registry) (j : Json) : Except Refusal (Module × Action × Option Json) :=
  match checkEnvelope j with
  | .error v => .error (.invalid v)
  | .ok () =>
    let kind := echoed j "kind"
    if kind ≠ MessageKind.request.spelling then .error (.wrongKind kind)
    else
      let module := echoed j "module"
      let action := echoed j "action"
      match r.resolve module action with
      | none => .error (.unknownRoute module action)
      | some (m, a) =>
        let data := j.get? "data"
        match checkRequest a data with
        | .error v => .error (.invalid v)
        | .ok () => .ok (m, a, data)

/-- The payload of the reply that an outcome gives. -/
def conclude (a : Action) : Outcome → Except Refusal Json
  | .crashed message trace => .error (.crash message trace)
  | .failed e => .error (.ofHandler e)
  | .returned value =>
    match checkReply a value with
    | .error v => .error (.invalid v)
    | .ok () => .ok value

/-- Answers a decoded request. -/
def dispatch (r : Registry) (j : Json) : Dispatched :=
  let module := echoed j "module"
  let action := echoed j "action"
  match accept r j with
  | .error e => ⟨.errorReply module action e.record, [], [], r, 0⟩
  | .ok (m, a, data) =>
    let h := m.handle a.name data m.state
    let r := r.register { m with state := h.state }
    match conclude a h.outcome with
    | .error e => ⟨.errorReply module action e.record, h.posted, [], r, h.duration⟩
    | .ok value =>
      let events := if a.mutating then h.raised.map (.ofEvent m.name) else []
      ⟨.reply module action value, h.posted, events, r, h.duration⟩

/-- Decodes a request and answers it. -/
def dispatchBytes (r : Registry) (payload : Octets) : Dispatched :=
  match Json.parse payload with
  | .ok j => dispatch r j
  | .error f => ⟨.errorReply "" "" ⟨incorrectInput, f.message payload⟩, [], [], r, 0⟩

end Switchyard.Route
