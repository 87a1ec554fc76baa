import Switchyard.Proofs.Route.Dependence
import Switchyard.Proofs.Route.ReplyLength
import Switchyard.Proofs.Socket.Connection

/-!
# Switchyard.Proofs.Socket.ReplyLimit

**A reply can be received if it is within the limit, and how long it can be is known from the
request** (`replies_received_within_limit`). The limit of a frame holds for what is read; what is
written is only kept from being longer than four bytes can tell. So a reply need not keep the limit
that its request kept (`Outgrows`): the answer of a handler can have any length, and the report
about a request can be longer than the request (`reply_outgrows_limit`).

Whether a reply can be received is a matter of its length alone (`read_encode`), and so is whether
it can be sent (`send_eq`). What remains is the length, which is bounded by what the request says
and what the handler gives; a bound from the request alone there is not, as the second witness
shows.
-/

namespace Switchyard.Socket

open Switchyard.Frame (Fits maxPayload)
open Switchyard.Stream (Source Sink Delivers)
open Switchyard.Json (width)
open Route

/-! ### Frames of any length -/

/-- A reader takes the frame of a payload, or refuses it for its length; there is no third case,
since the bytes of the frame are all there. -/
theorem read_encode (limit : Nat) {payload behind : Octets} (hsize : payload.length < 0x100000000)
    {source : Source} (h : Delivers (Frame.encode payload ++ behind) source) :
    (Frame.read limit source).map (·.1) =
      if payload.length ≤ limit then .ok (some payload)
      else .error (.tooLarge payload.length limit) := by
  split
  next hle => exact read_of_opens (.frame ⟨hle, hsize⟩) h
  next hgt =>
    rw [Frame.encode, List.append_assoc] at h
    exact read_of_opens (.tooLarge hsize (Nat.not_le.mp hgt)) h

/-- What can be sent is sent whole, and of all else nothing. -/
theorem send_eq {s : Served} {reply : Octets} (h : s.reply = some reply) {client : Sink}
    (hroom : client.room = none) (hflush : client.flushError = none) :
    s.send client =
      if reply.length < 0x100000000 then
        (.ok (), { client with written := client.written ++ Frame.encode reply })
      else (.error (.tooLarge reply.length 0xffffffff), client) := by
  split
  next hlt => exact send_of_reply h hlt hroom hflush
  next hge =>
    unfold Served.send Frame.write
    rw [h]
    exact if_pos (Nat.not_lt.mp hge)

/-! ### Replies -/

/-- A frame that the limit allows is answered. -/
theorem reply_of_frame (r : Registry) {payload behind : Octets} {source : Source}
    (hlimit : payload.length ≤ maxPayload)
    (h : Delivers (Frame.encode payload ++ behind) source) :
    (serve r source).reply = some (dispatchBytes r payload).reply.octets := by
  have hmax : maxPayload = 67108864 := rfl
  have hfits : Fits maxPayload payload := ⟨hlimit, by omega⟩
  unfold serve
  rw [serveWithin_of_opens (.frame hfits) h]
  rfl

/-- **How long a reply can be, and who can receive it.** Let a request be delivered as a frame that
the limit allows.

Its reply is not longer than the request, the longest name that is declared in the registry, what
the handler gives, and 256 bytes together; where no handler is called, than the request, the name
and 256 bytes.

It is sent as one frame, unless four bytes cannot tell its length. A reader with the limit that the
request kept takes it if it is within that limit, and otherwise refuses it for its length. -/
theorem replies_received_within_limit (r : Registry) {payload behind : Octets} {source : Source}
    (hlimit : payload.length ≤ maxPayload)
    (h : Delivers (Frame.encode payload ++ behind) source) :
    ∃ reply, (serve r source).reply = some reply ∧
      (∀ e m a, Json.parse payload = .ok e → Accepted r e m a →
        reply.length ≤
          payload.length + (m.handling a e).outcome.size + r.longestName + 256) ∧
      ((∀ e m a, Json.parse payload = .ok e → ¬Accepted r e m a) →
        reply.length ≤ payload.length + r.longestName + 256) ∧
      (∀ client : Sink, client.room = none → client.flushError = none →
        (serve r source).send client =
          if reply.length < 0x100000000 then
            (.ok (), { client with written := client.written ++ Frame.encode reply })
          else (.error (.tooLarge reply.length 0xffffffff), client)) ∧
      (reply.length < 0x100000000 →
        ∀ behind peer, Delivers (Frame.encode reply ++ behind) peer →
          (Frame.read maxPayload peer).map (·.1) =
            if reply.length ≤ maxPayload then .ok (some reply)
            else .error (.tooLarge reply.length maxPayload)) := by
  have hmax : maxPayload = 67108864 := rfl
  have hserved := reply_of_frame r hlimit h
  refine ⟨_, hserved, ?_, ?_, ?_, ?_⟩
  · exact fun e m a hparse hacc => length_reply_of_handled hparse hacc
  · exact length_reply_of_refused (by omega)
  · exact fun client hroom hflush => send_eq hserved hroom hflush
  · exact fun hsize behind peer hpeer => read_encode maxPayload hsize hpeer

/-- An empty object is no request, and the report of that can be received. -/
theorem replies_received_within_limit_emptyRequest :
    ([123, 125] : Octets).length ≤ maxPayload ∧
      Delivers (Frame.encode [123, 125] ++ [9, 9]) emptyRequest ∧
      ∃ reply, (serve [] emptyRequest).reply = some reply ∧
        ∀ behind peer, Delivers (Frame.encode reply ++ behind) peer →
          (Frame.read maxPayload peer).map (·.1) = .ok (some reply) := by
  have hlimit : ([123, 125] : Octets).length ≤ maxPayload := by decide
  have hdelivers : Delivers (Frame.encode [123, 125] ++ [9, 9]) emptyRequest := by
    refine ⟨?_, rfl⟩
    simp [emptyRequest, Stream.Steady, Stream.Arrival.Steady]
  obtain ⟨reply, hreply, -, hrefused, -, hread⟩ := replies_received_within_limit [] hlimit hdelivers
  have hlength := hrefused fun e m a _ hacc => Option.some_ne_none (m, a) hacc.route.symm
  have hbound : ([123, 125] : Octets).length + Registry.longestName [] + 256 ≤ maxPayload := by
    decide
  have hwithin : reply.length ≤ maxPayload := Nat.le_trans hlength hbound
  have hsize : reply.length < 0x100000000 := Nat.lt_of_le_of_lt hwithin (by decide)
  refine ⟨hlimit, hdelivers, reply, hreply, fun behind peer hpeer => ?_⟩
  rw [hread hsize behind peer hpeer, if_pos hwithin]

/-! ### Replies beyond the limit -/

/-- A request that the limit allows has a reply that a reader with that limit refuses, though it was
sent as a whole. -/
def Outgrows (r : Registry) (payload : Octets) : Prop :=
  payload.length ≤ maxPayload ∧
    ∃ reply, (serve r [.bytes (Frame.encode payload)]).reply = some reply ∧
      (Frame.read maxPayload [.bytes (Frame.encode reply)]).map (·.1) =
        .error (.tooLarge reply.length maxPayload)

theorem delivers_encode (payload : Octets) :
    Delivers (Frame.encode payload ++ []) [.bytes (Frame.encode payload)] := by
  have hne : Frame.encode payload ≠ [] := by
    rw [← List.length_pos_iff, Frame.length_encode]
    exact Nat.add_pos_left (by decide) _
  exact ⟨Stream.steady_cons_iff.mpr ⟨hne, nofun⟩, rfl⟩

/-- It is enough that the reply is longer than the limit and short enough to be sent. -/
theorem outgrows_of_length {r : Registry} {payload : Octets} (hlimit : payload.length ≤ maxPayload)
    (hlong : maxPayload < (dispatchBytes r payload).reply.octets.length)
    (hsize : (dispatchBytes r payload).reply.octets.length < 0x100000000) :
    Outgrows r payload := by
  refine ⟨hlimit, _, reply_of_frame r hlimit (delivers_encode payload), ?_⟩
  rw [read_encode maxPayload hsize (delivers_encode _), if_neg (Nat.not_le.mpr hlong)]

/-- A text of so many letters. -/
def letters (n : Nat) : String :=
  String.ofList (List.replicate n 'a')

theorem width_letters (n : Nat) : width (letters n) = n := by
  unfold letters
  refine (Json.width_of_forall fun c hc => ?_).trans ?_
  · rw [String.toList_ofList] at hc
    rw [List.eq_of_mem_replicate hc]
    rfl
  · rw [String.length_ofList, List.length_replicate]

theorem dispatchBytes_request (r : Registry) (module action : String) :
    dispatchBytes r (Envelope.request module action none).octets =
      dispatch r (Envelope.request module action none).toJson := by
  have hparse : Json.parse (Envelope.request module action none).octets =
      .ok (Envelope.request module action none).toJson :=
    Envelope.parse_octets nofun
  exact dispatchBytes_of_parse r hparse

theorem get?_kind_request (module action : String) :
    (Envelope.request module action none).toJson.get? "kind" = some (.string "request") := by
  rw [toJson_request]
  rfl

/-- The report that nothing of this name is registered is longer than the request, since it repeats
the two names of the request and adds its words. -/
theorem length_reply_of_unregistered (module action : String) :
    (dispatchBytes [] (Envelope.request module action none).octets).reply.octets.length =
      (Envelope.request module action none).octets.length + 104 := by
  have hrequests := requests_toJson module action none
  have henv : checkEnvelope (Envelope.request module action none).toJson = .ok () :=
    checkEnvelope_of_requests hrequests
  have hwords : width incorrectInput = 16 ∧
      width "request does not match any registered action" = 44 := ⟨rfl, rfl⟩
  rw [dispatchBytes_request,
    (dispatch_of_fails (.route henv (get?_kind_request module action) rfl)).1,
    Envelope.length_errorReply, Envelope.length_request, hrequests.echoed_module,
    hrequests.echoed_action]
  dsimp only
  omega

/-- The declaration of an action that takes nothing and gives a text. -/
def readAction : Action :=
  ⟨"read", false, none, ⟨["text"], []⟩⟩

/-- A module whose one action gives a text of so many letters. -/
def library (n : Nat) : Module :=
  .passive "library" [readAction] () fun _ _ s =>
    ⟨s, .returned (.object [("text", .string (letters n))]), [], [], 0⟩

theorem answers_library (n : Nat) :
    Answers [library n] (Envelope.request "library" "read" none).toJson
      (.object [("text", .string (letters n))]) := by
  have hrequests := requests_toJson "library" "read" none
  refine ⟨library n, readAction, ⟨checkEnvelope_of_requests hrequests,
    get?_kind_request "library" "read", ?_, ?_⟩, rfl, rfl⟩
  · rw [hrequests.echoed_module, hrequests.echoed_action]
    rfl
  · rw [hrequests.get?_data]
    rfl

theorem length_reply_of_library (n : Nat) :
    let payload := (Envelope.request "library" "read" none).octets
    (dispatchBytes [library n] payload).reply.octets.length = n + 70 := by
  intro payload
  have hrequests := requests_toJson "library" "read" none
  have hwords : width "library" = 7 ∧ width "read" = 4 ∧ width "text" = 4 := ⟨rfl, rfl, rfl⟩
  rw [dispatchBytes_request, reply_of_answers (answers_library n), Envelope.length_reply,
    hrequests.echoed_module, hrequests.echoed_action]
  simp only [Json.spelling, Json.spellingMembers, Json.length_quotedTail, List.length_cons,
    List.length_append, List.length_nil, width_letters]
  omega

/-- Two requests that the limit allows: one of as many bytes as it allows, for an action that is not
registered, and a short one for a text of as many letters. -/
theorem reply_outgrows_limit :
    Outgrows [] (Envelope.request "" (letters (maxPayload - 42)) none).octets ∧
      Outgrows [library maxPayload] (Envelope.request "library" "read" none).octets := by
  have hmax : maxPayload = 67108864 := rfl
  constructor
  · have hempty : width "" = 0 := rfl
    have hrequest := Envelope.length_request "" (letters (maxPayload - 42))
    have hreply := length_reply_of_unregistered "" (letters (maxPayload - 42))
    rw [width_letters, hempty] at hrequest
    exact outgrows_of_length (by omega) (by omega) (by omega)
  · have hwords : width "library" = 7 ∧ width "read" = 4 := ⟨rfl, rfl⟩
    have hrequest := Envelope.length_request "library" "read"
    have hreply := length_reply_of_library maxPayload
    exact outgrows_of_length (by omega) (by omega) (by omega)

end Switchyard.Socket
