import Switchyard.Proofs.Route.Dispatch

/-!
# Switchyard.Proofs.Route.Dependence

What a dispatch depends on.

* Of the registry, only the module that the request names (`alike_dispatch`): two registries that
  find the same module under that name give the same reply, and find the same module after it.
* Of a request, only the members of an envelope (`dispatch_of_requests`): every object with these
  members and no others is dispatched as the envelope that is built from them.

Both are used to compare what reaches a module in different ways. The first compares a worker that
has one module with one that has them all, the second the three buses, of which each builds its own
envelope.
-/

namespace Switchyard.Route

variable {r r' : Registry} {e : Json} {module action : String} {data : Option Json}

/-! ### The registry -/

/-- Two dispatches of requests for a module do the same, as far as can be seen from outside and from
the module itself. What else is in the two registries may be anything. -/
structure Alike (module : String) (d d' : Dispatched) : Prop where
  reply : d.reply = d'.reply
  notices : d.notices = d'.notices
  found : d.registry.find? module = d'.registry.find? module
  duration : d.duration = d'.duration

theorem accept_of_find? (h : r.find? (echoed e "module") = r'.find? (echoed e "module")) :
    accept r e = accept r' e := by
  have hroute (action : String) :
      r.resolve (echoed e "module") action = r'.resolve (echoed e "module") action := by
    unfold Registry.resolve
    rw [h]
  unfold accept
  simp only [hroute]

/-- A request is dispatched by the module that it names, whatever else is registered. -/
theorem alike_dispatch (h : r.find? (echoed e "module") = r'.find? (echoed e "module")) :
    Alike (echoed e "module") (dispatch r e) (dispatch r' e) := by
  have haccept := accept_of_find? h
  cases hacc : accept r e with
  | error x =>
      rw [dispatch_of_refused hacc, dispatch_of_refused (haccept ▸ hacc)]
      exact ⟨rfl, rfl, h, rfl⟩
  | ok found =>
      obtain ⟨m, a, data⟩ := found
      obtain ⟨haccepted, rfl⟩ := accepted_of_accept hacc
      obtain ⟨haccepted', -⟩ := accepted_of_accept (haccept ▸ hacc)
      -- The handler starts from the same state in both, and its module is registered again in both.
      have hfound : (r.register (m.handled a e)).find? (echoed e "module") =
          (r'.register (m.handled a e)).find? (echoed e "module") := by
        rw [Registry.find?_register, Registry.find?_register, h]
      rw [dispatch_of_accepted haccepted, dispatch_of_accepted haccepted']
      cases conclude a (m.handling a e).outcome with
      | error x => exact ⟨rfl, rfl, hfound, rfl⟩
      | ok value => exact ⟨rfl, rfl, hfound, rfl⟩

/-! ### The request -/

/-- The members of a request for an action, with a payload or without one, in any order. There is no
other member, since an envelope with one is refused. -/
structure RequestMembers (module action : String) (data : Option Json) (members : Json.Members) :
    Prop where
  keys : ∀ member ∈ members, member.1 ∈ ["module", "action", "kind", "data"]
  module : Json.lookup? "module" members = some (.string module)
  action : Json.lookup? "action" members = some (.string action)
  kind : Json.lookup? "kind" members = some (.string "request")
  data : Json.lookup? "data" members = data

/-- The value is a request for an action, with a payload or without one, and nothing else. -/
def Requests (module action : String) (data : Option Json) (e : Json) : Prop :=
  ∃ members, e = .object members ∧ RequestMembers module action data members

/-- The members of a request that is built, in the order of their keys. -/
theorem toJson_request (module action : String) (data : Option Json) :
    (Envelope.request module action data).toJson =
      .object ([("action", .string action)] ++ (data.map fun d => ("data", d)).toList ++
        [("kind", .string "request"), ("module", .string module)]) := by
  cases data with
  | none => cbv
  | some d => cbv

/-- A request that is built is one. -/
theorem requests_toJson (module action : String) (data : Option Json) :
    Requests module action data (Envelope.request module action data).toJson := by
  refine ⟨_, toJson_request module action data, ?_, ?_, ?_, ?_, ?_⟩
  · cases data <;> simp
  all_goals cases data <;> rfl

/-- The rule of an envelope for its payload. -/
def checkPayload : Option Json → Except Violation Unit
  | some data => if data.isObject then .ok () else .error ⟨"data", "must be an object"⟩
  | none => .ok ()

/-- Of the rules of an envelope, such a request can break the one for its payload only. A payload
that is no object is refused before the action is looked for. -/
theorem checkEnvelope_of_requests (h : Requests module action data e) :
    checkEnvelope e = checkPayload data := by
  obtain ⟨members, rfl, h⟩ := h
  have hkeys : members.find? (fun member => !envelopeKeys.contains member.1) = none := by
    rw [find?_unexpected_eq_none_iff]
    intro member hmember
    have hkey := h.keys member hmember
    simp only [List.mem_cons, List.not_mem_nil, or_false] at hkey
    rcases hkey with hkey | hkey | hkey | hkey <;> simp [hkey, envelopeKeys]
  have hknown : ¬(!kinds.contains "request") = true := by decide
  -- The rules for the keys and for the three texts pass, so that the payload's own is left.
  unfold checkEnvelope
  simp only [Json.object?, hkeys, textMember_eq_ok_iff.mpr h.module,
    textMember_eq_ok_iff.mpr h.action, textMember_eq_ok_iff.mpr h.kind, h.data]
  dsimp only [bind, Except.bind]
  rw [if_neg hknown]
  cases data with
  | none => rfl
  | some d => cases hobj : d.isObject <;> simp only [checkPayload, hobj] <;> rfl

theorem Requests.echoed_module (h : Requests module action data e) :
    echoed e "module" = module := by
  obtain ⟨members, rfl, h⟩ := h
  exact echoed_of_get? h.module

theorem Requests.echoed_action (h : Requests module action data e) :
    echoed e "action" = action := by
  obtain ⟨members, rfl, h⟩ := h
  exact echoed_of_get? h.action

theorem Requests.echoed_kind (h : Requests module action data e) :
    echoed e "kind" = "request" := by
  obtain ⟨members, rfl, h⟩ := h
  exact echoed_of_get? h.kind

theorem Requests.get?_data (h : Requests module action data e) : e.get? "data" = data := by
  obtain ⟨members, rfl, h⟩ := h
  exact h.data

/-- Requests for the same action with the same payload are dispatched alike. -/
theorem dispatch_of_requests {e' : Json} (h : Requests module action data e)
    (h' : Requests module action data e') : dispatch r e = dispatch r e' := by
  unfold dispatch accept
  simp only [checkEnvelope_of_requests h, checkEnvelope_of_requests h', h.echoed_module,
    h'.echoed_module, h.echoed_action, h'.echoed_action, h.echoed_kind, h'.echoed_kind,
    h.get?_data, h'.get?_data]

end Switchyard.Route
