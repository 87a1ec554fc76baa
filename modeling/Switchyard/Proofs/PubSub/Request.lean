import Switchyard.Proofs.Json.Equality
import Switchyard.Proofs.PubSub.Session

/-!
# Switchyard.Proofs.PubSub.Request

**What becomes of a publication.** It is a request when its topic names a route and its body names
an id for the reply (`IsRequest`). A request is dispatched and answered under that id, whatever the
id is, and any other publication is passed over (`answered_or_passed_over`).

* `requests_served_iff`: a request is served exactly when the controller holds no slash, although
  the filter for its module covers it in any case.
* `own_publications_passed_over`: replies and notifications are no requests, whatever the controller
  and the callers have put in their topics.

A reply can be sent when its topic holds no wildcard, and that is seen only after the request was
dispatched. So a request can be carried out that is never answered (`carried_out_unanswered`).

The two directions of `answered_or_passed_over` rest on one definition, `IsRequest`, which says of a
publication what the listener needs: a route in its topic and an id in its body. A publication is
one or it is not, and what becomes of it is a function of that.
-/

namespace Switchyard

open Route PubSub

variable {r : Registry} {t : Topics} {topic module action id : String} {data : Option Json}
variable {body : Octets}

/-! ### Requests -/

/-- The bytes spell an object with the id for the reply, and with this payload if there is one.
Other members are ignored. -/
def Publishes (id : String) (data : Option Json) (body : Octets) : Prop :=
  ∃ members, Json.parse? body = some (.object members) ∧
    Json.lookup? "reply_msg_id" members = some (.string id) ∧ Json.lookup? "data" members = data

/-- All that came of the publication is what came of this dispatch, and the reply goes to the topic
of the id. -/
def PubSub.Published.Performs (p : Published) (t : Topics) (id : String) (d : Dispatched) : Prop :=
  p.topic = t.reply id ∧ p.reply = d.reply ∧ p.notices = d.notices ∧ p.registry = d.registry ∧
    p.duration = d.duration

namespace PubSub

/-- The topic names the route of a request to this controller, and the body the id for the reply. -/
structure IsRequest (t : Topics) (topic : String) (body : Octets) (module action id : String)
    (data : Option Json) : Prop where
  route : t.parseRequest? topic = some (module, action)
  body : Publishes id data body

/-- A request is dispatched. -/
theorem handlePublish_of_isRequest (r : Registry)
    (h : IsRequest t topic body module action id data) :
    ∃ p, handlePublish r t topic body = some p ∧
      p.Performs t id (dispatch r (Envelope.request module action data).toJson) := by
  obtain ⟨hroute, members, hparse, hid, rfl⟩ := h
  have hreply : ((Json.object members).get? "reply_msg_id").bind Json.string? = some id := by
    rw [show (Json.object members).get? "reply_msg_id" = _ from hid]
    rfl
  unfold handlePublish
  rw [hroute, hparse]
  dsimp only
  rw [hreply]
  exact ⟨_, rfl, rfl, rfl, rfl, rfl, rfl⟩

/-- A publication on the topic of a request dispatches that request. -/
theorem handlePublish_request (ht : '/' ∉ t.controller.toList) (hmodule : IsLevel module)
    (haction : IsLevel action) (hbody : Publishes id data body) :
    ∃ p, handlePublish r t (t.request module action) body = some p ∧
      p.Performs t id (dispatch r (Envelope.request module action data).toJson) :=
  handlePublish_of_isRequest r ⟨Topics.parseRequest?_request ht hmodule haction, hbody⟩

/-- Only requests are dispatched. The cases are those in which the listener goes on. -/
theorem isRequest_of_handlePublish {p : Published} (h : handlePublish r t topic body = some p) :
    ∃ module action id data, IsRequest t topic body module action id data := by
  unfold handlePublish at h
  split at h
  · rename_i module action value hroute hparse
    split at h
    · rename_i id hid
      obtain ⟨found, hfound, hstring⟩ := Option.bind_eq_some_iff.mp hid
      cases value with
      | object members =>
          cases found with
          | string text =>
              obtain rfl := Option.some.inj hstring
              exact ⟨module, action, text, _, hroute, members, hparse, hfound, rfl⟩
          | _ => cases hstring
      | _ => cases hfound
    · cases h
  · cases h

/-! ### Other publications -/

/-- Nothing comes of a publication: it is not dispatched, so that no handler is called, and it
leaves the modules and the queue as they are and sends no notice. No time passes either. -/
structure PassedOver (r : Registry) (t : Topics) (topic : String) (body : Octets) (o : Outbox) :
    Prop where
  handled : handlePublish r t topic body = none
  received : receive r t topic body o = ⟨r, o, [], 0⟩

theorem passedOver_of_no_request (r : Registry) (o : Outbox)
    (h : ¬∃ module action id data, IsRequest t topic body module action id data) :
    PassedOver r t topic body o := by
  have hnone : handlePublish r t topic body = none := by
    cases hp : handlePublish r t topic body with
    | none => rfl
    | some p => exact absurd (isRequest_of_handlePublish hp) h
  refine ⟨hnone, ?_⟩
  unfold receive
  rw [hnone]

theorem passedOver_of_parseRequest? (r : Registry) (body : Octets) (o : Outbox)
    (h : t.parseRequest? topic = none) : PassedOver r t topic body o := by
  apply passedOver_of_no_request
  rintro ⟨module, action, id, data, hrequest⟩
  have hroute := hrequest.route
  rw [h] at hroute
  cases hroute

/-! ### Controllers with slashes -/

/-- A controller that holds a slash reads no topic as a request, not even its own ones: a topic that
it built has more levels than the reader asks for. -/
theorem slash_notMem_of_parseRequest? (h : t.parseRequest? topic = some (module, action)) :
    '/' ∉ t.controller.toList := by
  have hlevels := (Topics.parseRequest?_eq_some_iff_levels.mp h).1
  have hmem : t.controller.toList ∈ levels topic.toList := by
    rw [hlevels]
    exact List.mem_map_of_mem (by simp [Topics.requestStem])
  exact slash_notMem_of_mem_levels hmem

/-- A filter that ends with `+` matches the topic with some level there and the same before it. -/
theorem matchLevels_any (stem : List (List Char)) (level : List Char) :
    matchLevels (stem ++ [anyLevel]) (stem ++ [level]) = true := by
  induction stem with
  | nil => simp [matchLevels]
  | cons first rest ih => simp [matchLevels, ih]

/-- The filter for a module covers the requests to it, whatever the controller is. Both have the
same levels but for the last one, so wildcards among them do no harm. -/
theorem matchesTopic_request (t : Topics) (module : String) (haction : '/' ∉ action.toList) :
    matchesTopic (t.requestFilter module) (t.request module action) = true := by
  have hfilter : levels (t.requestFilter module).toList = _ ++ [anyLevel] :=
    levels_joinLevels_concat (t.requestStem module) "+" (by decide)
  have htopic : levels (t.request module action).toList = _ ++ [action.toList] :=
    levels_joinLevels_concat (t.requestStem module) action haction
  have hroot : levels root.toList = [root.toList] := by decide
  have hany : root.toList ≠ anyLevel ∧ root.toList ≠ anyLevels := by decide
  unfold matchesTopic
  rw [hfilter, htopic]
  dsimp only
  -- The filter begins with the root, which is no wildcard.
  rw [matchLevels_any, Topics.requestStem, List.flatMap_cons, hroot]
  simp [hany.1, hany.2]

/-- **A request for a module is served exactly when the controller holds no slash.** The filter that
the daemon subscribes to covers it in any case. -/
theorem requests_served_iff (r : Registry) (t : Topics) (module action id : String)
    (data : Option Json) (body : Octets) (hmodule : IsLevel module) (haction : IsLevel action)
    (hbody : Publishes id data body) :
    matchesTopic (t.requestFilter module) (t.request module action) = true ∧
    ((∃ p, handlePublish r t (t.request module action) body = some p ∧
        p.Performs t id (dispatch r (Envelope.request module action data).toJson)) ↔
      '/' ∉ t.controller.toList) := by
  refine ⟨matchesTopic_request t module haction.2, ?_, ?_⟩
  · rintro ⟨p, hp, -⟩
    obtain ⟨module', action', id', data', hrequest⟩ := isRequest_of_handlePublish hp
    exact slash_notMem_of_parseRequest? hrequest.route
  · intro ht
    exact handlePublish_request ht hmodule haction hbody

/-- The publication of a message for the echo module. -/
def echoBody : Octets :=
  Utf8.encode "\x7b\"reply_msg_id\":\"m1\",\"data\":\x7b\"request_msg\":1\x7d\x7d"

theorem publishes_echoBody : Publishes "m1" (some (.object [("request_msg", .nat 1)])) echoBody := by
  have hparse : Json.parse? echoBody =
      some (.object [("data", .object [("request_msg", .nat 1)]),
        ("reply_msg_id", .string "m1")]) := by decide +kernel
  exact ⟨_, hparse, rfl, rfl⟩

/-- A message for the echo module, to a controller that is one level. -/
theorem requests_served_iff_echo :
    IsLevel "echo" ∧ Publishes "m1" (some (.object [("request_msg", .nat 1)])) echoBody ∧
      '/' ∉ "c1".toList ∧
      ∃ p, handlePublish [Modules.Echo.module] ⟨"c1"⟩ "cfgbus/c1/request/echo/action/echo" echoBody =
        some p ∧ p.topic = "cfgbus/c1/reply/m1" := by
  have hlevel : IsLevel "echo" := by decide
  have ht : '/' ∉ "c1".toList := by decide
  obtain ⟨-, hserved⟩ := requests_served_iff [Modules.Echo.module] ⟨"c1"⟩ "echo" "echo" "m1" _ _
    hlevel hlevel publishes_echoBody
  obtain ⟨p, hp, hperforms⟩ := hserved.mpr ht
  exact ⟨hlevel, publishes_echoBody, ht, p, hp, hperforms.1⟩

/-- The same message, to a controller of two levels: the filter covers it, nothing comes of it. -/
theorem subscribed_unserved :
    (⟨"a/b"⟩ : Topics).request "echo" "echo" = "cfgbus/a/b/request/echo/action/echo" ∧
      matchesTopic ((⟨"a/b"⟩ : Topics).requestFilter "echo")
        "cfgbus/a/b/request/echo/action/echo" = true ∧
      Publishes "m1" (some (.object [("request_msg", .nat 1)])) echoBody ∧
      PassedOver [Modules.Echo.module] ⟨"a/b"⟩ "cfgbus/a/b/request/echo/action/echo" echoBody [] := by
  have hroute : (⟨"a/b"⟩ : Topics).parseRequest? "cfgbus/a/b/request/echo/action/echo" = none := by
    decide
  exact ⟨by decide, by decide, publishes_echoBody, passedOver_of_parseRequest? _ _ _ hroute⟩

/-! ### Own publications -/

/-- A topic of another family than the requests is not read as a request. -/
theorem parseRequest?_eq_none_of_family (family : String) (rest : List String)
    (hslash : '/' ∉ family.toList) (hne : family ≠ "request") :
    t.parseRequest? (joinLevels (root :: t.controller :: family :: rest)) = none := by
  cases h : t.parseRequest? (joinLevels (root :: t.controller :: family :: rest)) with
  | none => rfl
  | some found =>
      obtain ⟨module, action⟩ := found
      have ht := slash_notMem_of_parseRequest? h
      have hlevels := (Topics.parseRequest?_eq_some_iff_levels.mp h).1
      have hroot : levels root.toList = [root.toList] := by decide
      -- The controller is one level, so the family stands where a request topic has its own.
      rw [levels_joinLevels_flatMap (List.cons_ne_nil _ _), List.flatMap_cons, List.flatMap_cons,
        List.flatMap_cons, hroot, levels_of_slash_notMem ht, levels_of_slash_notMem hslash] at hlevels
      have hfamily : family.toList = "request".toList :=
        (List.cons.inj (List.cons.inj (List.cons.inj hlevels).2).2).1
      exact absurd (String.toList_inj.mp hfamily) hne

/-- **The daemon never serves its own publications.** Whatever the controller is, and whatever ids,
modules and events stand in the topics, neither a reply nor a notification is read as a request, and
nothing comes of it when it arrives. -/
theorem own_publications_passed_over (t : Topics) (id module event : String) :
    (t.parseRequest? (t.reply id) = none ∧ t.parseRequest? (t.notification module event) = none) ∧
    ∀ (r : Registry) (body : Octets) (o : Outbox),
      PassedOver r t (t.reply id) body o ∧
      PassedOver r t (t.notification module event) body o := by
  have hreply : t.parseRequest? (t.reply id) = none :=
    parseRequest?_eq_none_of_family "reply" [id] (by decide) (by decide)
  have hnotification : t.parseRequest? (t.notification module event) = none :=
    parseRequest?_eq_none_of_family "notification" [module, "action", event] (by decide) (by decide)
  refine ⟨⟨hreply, hnotification⟩, ?_⟩
  intro r body o
  constructor
  · exact passedOver_of_parseRequest? r body o hreply
  · exact passedOver_of_parseRequest? r body o hnotification

/-! ### Topics that can be published on -/

theorem isTopic_iff (topic : String) : isTopic topic = true ↔ IsPlain topic := by
  unfold isTopic isWild IsPlain
  simp

theorem isPlain_append (a b : String) : IsPlain (a ++ b) ↔ IsPlain a ∧ IsPlain b := by
  unfold IsPlain
  simp only [String.toList_append, List.mem_append, not_or]
  exact and_and_and_comm

theorem reply_eq (t : Topics) (id : String) :
    t.reply id = root ++ "/" ++ t.controller ++ "/reply/" ++ id := by
  rw [← String.toList_inj]
  simp [Topics.reply, joinLevels, root]

/-- A reply can be sent exactly when neither the controller nor the id holds a wildcard. -/
theorem isTopic_reply_iff (t : Topics) (id : String) :
    isTopic (t.reply id) = true ↔ IsPlain t.controller ∧ IsPlain id := by
  have hroot : IsPlain (root ++ "/") := by decide
  have hreply : IsPlain "/reply/" := by decide
  rw [isTopic_iff, reply_eq, isPlain_append, isPlain_append, isPlain_append]
  simp [hroot, hreply]

theorem notification_eq (t : Topics) (module event : String) :
    t.notification module event =
      root ++ "/" ++ t.controller ++ "/notification/" ++ module ++ "/action/" ++ event := by
  rw [← String.toList_inj]
  simp [Topics.notification, joinLevels, root]

/-- A notification can be announced exactly when none of its names holds a wildcard. -/
theorem isTopic_notification_iff (t : Topics) (module event : String) :
    isTopic (t.notification module event) = true ↔
      IsPlain t.controller ∧ IsPlain module ∧ IsPlain event := by
  have hroot : IsPlain (root ++ "/") := by decide
  have hnotification : IsPlain "/notification/" := by decide
  have haction : IsPlain "/action/" := by decide
  rw [isTopic_iff, notification_eq]
  simp only [isPlain_append, hroot, hnotification, haction, true_and, and_true, and_assoc]

/-! ### Replies -/

/-- A request was dispatched, whatever became of its reply. -/
structure Answered (r : Registry) (t : Topics) (topic : String) (body : Octets) (o : Outbox)
    (module action id : String) (data : Option Json) (p : Published) : Prop where
  request : IsRequest t topic body module action id data
  handled : handlePublish r t topic body = some p
  performs : p.Performs t id (dispatch r (Envelope.request module action data).toJson)
  /-- The reply goes to the reply topics of the controller, followed by the caller's id. -/
  named : p.topic = root ++ "/" ++ t.controller ++ "/reply/" ++ id
  sendable : isTopic p.topic = true ↔ IsPlain t.controller ∧ IsPlain id
  /-- The modules are as the dispatch left them, also where the reply is dropped. -/
  modules : (receive r t topic body o).registry = p.registry
  queued : (receive r t topic body o).outbox = o ++ [replyTo p.topic p.reply] ↔
    isTopic p.topic = true ∧ o.length < capacity

theorem answered_of_isRequest (r : Registry) (o : Outbox)
    (h : IsRequest t topic body module action id data) :
    ∃ p, Answered r t topic body o module action id data p := by
  obtain ⟨p, hp, hperforms⟩ := handlePublish_of_isRequest r h
  have hreceive : receive r t topic body o =
      ⟨p.registry, (o.ask (replyTo p.topic p.reply)).2, p.notices, p.duration⟩ := by
    unfold receive
    rw [hp]
  refine ⟨p, h, hp, hperforms, ?_, ?_, ?_, ?_⟩
  · rw [hperforms.1, reply_eq]
  · rw [hperforms.1, isTopic_reply_iff]
  · rw [hreceive]
  · rw [hreceive]
    exact ask_queues_iff

/-- **A publication is answered under the caller's id, or nothing comes of it.** A request is
dispatched, and its reply can be sent exactly when neither the controller nor the id holds a
wildcard. Any other publication is passed over. -/
theorem answered_or_passed_over (r : Registry) (t : Topics) (topic : String) (body : Octets)
    (o : Outbox) :
    (∃ module action id data p, Answered r t topic body o module action id data p) ∨
      PassedOver r t topic body o := by
  by_cases h : ∃ module action id data, IsRequest t topic body module action id data
  · obtain ⟨module, action, id, data, hrequest⟩ := h
    obtain ⟨p, hp⟩ := answered_of_isRequest r o hrequest
    left
    exact ⟨module, action, id, data, p, hp⟩
  · right
    exact passedOver_of_no_request r o h

/-- The publication of new switches for the resolver, whose reply is to go to the id `a+b`. -/
def switchesBody : Octets :=
  Utf8.encode ("\x7b\"reply_msg_id\":\"a+b\",\"data\":\x7b\"forwarding_enabled\":false," ++
    "\"dnssec_enabled\":true,\"dns_from_dhcp_enabled\":false\x7d\x7d")

/-- What the resolver and the connection are like after that publication. -/
def switched : Received :=
  receive [Modules.Dns.module] ⟨"ctl"⟩ "cfgbus/ctl/request/dns/action/update_settings" switchesBody []

/-- A request that is carried out and never answered: the resolver has its new switches, which was
notified, and the reply is dropped. -/
theorem carried_out_unanswered :
    IsPlain "ctl" ∧
    (handlePublish [Modules.Dns.module] ⟨"ctl"⟩ "cfgbus/ctl/request/dns/action/update_settings"
      switchesBody).map (fun p => (p.topic, isTopic p.topic)) =
        some ("cfgbus/ctl/reply/a+b", false) ∧
    (dispatch switched.registry (Envelope.request "dns" "get_settings" none).toJson).reply.data =
      some (Modules.Dns.Settings.mk false true false).toJson ∧
    switched.notices.length = 1 ∧ switched.outbox = [] := by
  decide +kernel

end PubSub
end Switchyard
