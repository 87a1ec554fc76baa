import Switchyard.Modules.Echo
import Switchyard.Proofs.Call.Handle
import Switchyard.Proofs.Json.Equality
import Switchyard.Proofs.PubSub.Request
import Switchyard.Proofs.Route.Answer
import Switchyard.Proofs.Route.Dependence

/-!
# Switchyard.Proofs.Buses

**The three buses agree.** A request reaches the router as the bytes of an envelope, as a
publication on the topic of its action, or as the parameters of a call. Each bus makes an envelope
of what it receives; the three are requests for one action with one payload
(`handlePublish_request`, `handleCall_of_plain`), and so they are dispatched alike (`buses_agree`),
accepted or not.

Two payloads are left out, because the buses do not agree on them: to a call, `null` and the empty
object are no payload.

The proof has one reduction for each bus. `Switchyard.Proofs.PubSub.Request` shows that a
publication on the topic of an action performs the dispatch of its request,
`Switchyard.Proofs.Call.Handle` that a plain call does, and `Switchyard.Proofs.Route.Dependence`
that a dispatch depends on an envelope only through what it requests. Here they are put together
over one registry; that they make the same calls of handlers is seen by recording the calls
(`dispatch_recorded_of_requests`).
-/

namespace Switchyard

open Route PubSub Call

variable {r : Registry} {t : Topics} {module action id : String} {data : Option Json}
variable {bytes body : Octets} {params : Json.Members} {e : Json}

/-! ### Envelopes -/

theorem dispatchBytes_of_requests (hbytes : Json.parse bytes = .ok e)
    (he : Requests module action data e) :
    dispatchBytes r bytes = dispatch r (Envelope.request module action data).toJson := by
  rw [dispatchBytes_of_parse r hbytes]
  exact dispatch_of_requests he (requests_toJson module action data)

/-- A request for an action calls the handler of that action with the payload, once or not at all.
The modules are recorded, which changes nothing of what they do (`Shadows`) but lets their calls be
seen. -/
theorem dispatch_recorded_of_requests (r : Registry) (log : CallLog)
    (he : Requests module action data e) :
    ∃ after, (after = log ∨ after = log.note module ⟨action, data⟩) ∧
      Shadows after (dispatch r e) (dispatch (r.recorded log) e) := by
  by_cases hacc : ∃ m a, Accepted r e m a
  · obtain ⟨m, a, hacc⟩ := hacc
    have hshadows := dispatch_recorded_of_accepted log hacc
    rw [he.echoed_module, he.echoed_action, he.get?_data] at hshadows
    exact ⟨_, .inr rfl, hshadows⟩
  · exact ⟨log, .inl rfl, dispatch_recorded_of_not_accepted log hacc⟩

/-! ### All buses -/

/-- The publication and the call do what the dispatch of the bytes does. What a bus adds to it (a
topic for the reply, chunks and a status) is no part of this. -/
def Agree (r : Registry) (t : Topics) (a : Assembler) (module action id : String)
    (bytes body : Octets) (params : Json.Members) : Prop :=
  (∃ p, handlePublish r t (t.request module action) body = some p ∧
    p.Performs t id (dispatchBytes r bytes)) ∧
  (handleCall r a module action params).Performs (dispatchBytes r bytes)

theorem agree_of_requests (r : Registry) (a : Assembler) (ht : '/' ∉ t.controller.toList)
    (hmodule : IsLevel module) (haction : IsLevel action) (hempty : data ≠ some (.object []))
    (hbytes : Json.parse bytes = .ok e) (he : Requests module action data e)
    (hbody : Publishes id data body) (hparams : CarriesPlain data params) :
    Agree r t a module action id bytes body params := by
  unfold Agree
  rw [dispatchBytes_of_requests hbytes he, handleCall_of_plain hparams hempty]
  exact ⟨handlePublish_request ht hmodule haction hbody,
    performs_dispatchCall r a module action data⟩

/-- **The three buses agree.** The bytes of a request, a publication on the topic of its action, and
a plain call make the same reply, send the same notices and leave the same modules, over every
registry. They do so over recorded modules too, whose logs say which calls were made: all three
make one call of the requested handler with the payload, or all three make none. -/
theorem buses_agree (r : Registry) (t : Topics) (a : Assembler) (module action id : String)
    (data : Option Json) (bytes body : Octets) (params : Json.Members) (e : Json)
    (ht : '/' ∉ t.controller.toList) (hmodule : IsLevel module) (haction : IsLevel action)
    (hempty : data ≠ some (.object [])) (hbytes : Json.parse bytes = .ok e)
    (he : Requests module action data e) (hbody : Publishes id data body)
    (hparams : CarriesPlain data params) :
    Agree r t a module action id bytes body params ∧
    ∀ log, ∃ after, (after = log ∨ after = log.note module ⟨action, data⟩) ∧
      Shadows after (dispatchBytes r bytes) (dispatchBytes (r.recorded log) bytes) ∧
      Agree (r.recorded log) t a module action id bytes body params := by
  -- The registry of recorded modules is a registry like any other, so the buses agree on the logs.
  have hagree (r : Registry) : Agree r t a module action id bytes body params :=
    agree_of_requests r a ht hmodule haction hempty hbytes he hbody hparams
  refine ⟨hagree r, fun log => ?_⟩
  obtain ⟨after, hafter, hshadows⟩ := dispatch_recorded_of_requests r log he
  rw [← dispatchBytes_of_parse r hbytes, ← dispatchBytes_of_parse (r.recorded log) hbytes]
    at hshadows
  exact ⟨after, hafter, hshadows, hagree (r.recorded log)⟩

/-- A message for the echo module, on all three buses. -/
theorem buses_agree_echo :
    Agree [Modules.Echo.module] ⟨"c1"⟩ .empty "echo" "echo" "m1"
      (Utf8.encode ("\x7b\"module\":\"echo\",\"action\":\"echo\",\"kind\":\"request\"," ++
        "\"data\":\x7b\"request_msg\":1\x7d\x7d"))
      (Utf8.encode "\x7b\"reply_msg_id\":\"m1\",\"data\":\x7b\"request_msg\":1\x7d\x7d")
      [("data", .object [("request_msg", .nat 1)])] := by
  have hbytes : Json.parse? (Utf8.encode
      ("\x7b\"module\":\"echo\",\"action\":\"echo\",\"kind\":\"request\"," ++
        "\"data\":\x7b\"request_msg\":1\x7d\x7d")) =
      some (.object [("action", .string "echo"), ("data", .object [("request_msg", .nat 1)]),
        ("kind", .string "request"), ("module", .string "echo")]) := by decide +kernel
  have hbody : Json.parse? (Utf8.encode
      "\x7b\"reply_msg_id\":\"m1\",\"data\":\x7b\"request_msg\":1\x7d\x7d") =
      some (.object [("data", .object [("request_msg", .nat 1)]),
        ("reply_msg_id", .string "m1")]) := by decide +kernel
  exact (buses_agree [Modules.Echo.module] ⟨"c1"⟩ .empty "echo" "echo" "m1"
    (some (.object [("request_msg", .nat 1)])) _ _ _ _ (by decide) ⟨by decide, by decide⟩
    ⟨by decide, by decide⟩ (by simp) (Json.parse?_eq_some_iff.mp hbytes)
    ⟨_, rfl, by simp, rfl, rfl, rfl, rfl⟩ ⟨_, hbody, rfl, rfl⟩
    (carriesPlain_members (by simp))).1

end Switchyard
