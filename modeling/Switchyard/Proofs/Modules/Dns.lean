import Switchyard.Modules.Dns
import Switchyard.Proofs.Json.Ordered
import Switchyard.Proofs.Route.Run

/-!
# Switchyard.Proofs.Modules.Dns

**The resolver's answers and announcements follow its successful updates**
(`answers_follow_updates`), over every run of requests and pauses and whatever else is registered.

* `toJson_of_ofJson` — a payload that has the three keys of the module and is read as switches is
  the very value that these switches are written as; so the payload of an update and the answer of a
  later look at the switches are one value.
* `cases_of_accepted` — what an accepted request for the module can be.
* `Moves` — what one exchange does to the module, found in every case (`moves_of_holds`).
* `holds_of_exchanges` — the switches that an exchange of a run finds, by induction on the run.

Two kinds of facts are kept apart. The first is about one exchange, and needs to know only that it
finds the module with some switches: what it answers, what it announces, and with which switches it
leaves the module. Whether the request is for this module, is accepted, is an update, and is an
update that can be read, are the cases of that. The second is about a run: the payload of the newest
update that was answered is what the next exchange finds. `replaced?` is the link between both,
since it tells from the exchange alone whether it replaced the switches.
-/

namespace Switchyard.Modules.Dns

open Route

/-- The members of a payload with all three switches, in the order of their keys. The values are
arbitrary, as they come with a request. -/
def switches (fromDhcp dnssec forwarding : Json) : Json.Members :=
  [("dns_from_dhcp_enabled", fromDhcp), ("dnssec_enabled", dnssec),
    ("forwarding_enabled", forwarding)]

theorem Settings.toJson_eq (s : Settings) :
    s.toJson = .object (switches (.bool s.fromDhcp) (.bool s.dnssec) (.bool s.forwarding)) := by
  cbv

theorem keys_eq_of_takes {members : Json.Members} (hsorted : Json.SortedKeys members)
    (h : Shape.Takes ⟨keys, []⟩ members) :
    members.map (·.1) = ["dns_from_dhcp_enabled", "dnssec_enabled", "forwarding_enabled"] := by
  have hsorted' : (members.map (·.1)).Pairwise (· < ·) := List.pairwise_map.mpr hsorted
  -- Both lists have the same keys, none of them twice, and are in order.
  have hmem (key : String) : key ∈ members.map (·.1) ↔ key ∈ keys := by
    constructor
    · intro hkey
      obtain ⟨m, hm, rfl⟩ := List.mem_map.mp hkey
      simpa [Shape.allows] using h.declared m hm
    · intro hkey
      obtain ⟨j, hj⟩ := h.required key hkey
      obtain ⟨m, hm, -⟩ := Option.map_eq_some_iff.mp hj
      exact List.mem_map.mpr ⟨m, List.mem_of_find?_eq_some hm, by simpa using List.find?_some hm⟩
  have hkeys : (members.map (·.1)).Perm keys :=
    (List.perm_ext_iff_of_nodup (hsorted'.imp fun h => ne_of_lt h) (by decide)).mpr hmem
  have hinOrder : keys.Perm
      ["dns_from_dhcp_enabled", "dnssec_enabled", "forwarding_enabled"] := by decide
  exact (hkeys.trans hinOrder).eq_of_pairwise
    (fun a b _ _ hab hba => absurd hba (lt_asymm hab)) hsorted' (by decide)

theorem eq_switches_of_takes {members : Json.Members} (hsorted : Json.SortedKeys members)
    (h : Shape.Takes ⟨keys, []⟩ members) :
    ∃ fromDhcp dnssec forwarding, members = switches fromDhcp dnssec forwarding := by
  have hkeys := keys_eq_of_takes hsorted h
  match members, hkeys with
  | [(_, fromDhcp), (_, dnssec), (_, forwarding)], hkeys =>
      simp only [List.map_cons, List.map_nil, List.cons.injEq, and_true] at hkeys
      obtain ⟨rfl, rfl, rfl⟩ := hkeys
      exact ⟨fromDhcp, dnssec, forwarding, rfl⟩

theorem bool_value_eq_ok_iff {j : Json} {b : Bool} :
    Json.Decoder.bool.value j = .ok b ↔ j = .bool b := by
  cases j <;> simp [Json.Decoder.bool]

theorem ofJson_switches (fromDhcp dnssec forwarding : Json) :
    Settings.ofJson (.object (switches fromDhcp dnssec forwarding)) = do
      let fromDhcp ← Json.Decoder.bool.value fromDhcp
      let dnssec ← Json.Decoder.bool.value dnssec
      let forwarding ← Json.Decoder.bool.value forwarding
      return ⟨forwarding, dnssec, fromDhcp⟩ := by
  unfold Settings.ofJson switches Json.Decoder.record Settings.shape
  simp [Json.Decoder.Record.ofMembers, Json.Decoder.Field.of]
  cases Json.Decoder.bool.value fromDhcp with
  | error c => rfl
  | ok x =>
      cases Json.Decoder.bool.value dnssec with
      | error c => rfl
      | ok y =>
          cases Json.Decoder.bool.value forwarding with
          | error c => rfl
          | ok z => rfl

theorem ofJson_toJson (s : Settings) : Settings.ofJson s.toJson = .ok s := by
  rw [Settings.toJson_eq, ofJson_switches]
  rfl

theorem toJson_of_ofJson {fromDhcp dnssec forwarding : Json} {s : Settings}
    (h : Settings.ofJson (.object (switches fromDhcp dnssec forwarding)) = .ok s) :
    s.toJson = .object (switches fromDhcp dnssec forwarding) := by
  rw [ofJson_switches] at h
  cases hx : Json.Decoder.bool.value fromDhcp with
  | error c => rw [hx] at h; cases h
  | ok x =>
      cases hy : Json.Decoder.bool.value dnssec with
      | error c => rw [hx, hy] at h; cases h
      | ok y =>
          cases hz : Json.Decoder.bool.value forwarding with
          | error c => rw [hx, hy, hz] at h; cases h
          | ok z =>
              rw [hx, hy, hz] at h
              cases h
              rw [Settings.toJson_eq, bool_value_eq_ok_iff.mp hx, bool_value_eq_ok_iff.mp hy,
                bool_value_eq_ok_iff.mp hz]

/-! ### One request -/

/-- The module with these switches. -/
def holding (s : Settings) : Module :=
  .passive "dns" actions s handle

/-- The module is registered, with these switches. Nothing is said of the other modules, which may
come and go. -/
def Holds (s : Settings) (r : Registry) : Prop :=
  r.find? "dns" = some (holding s)

/-- A valid request for an action of the module, with a payload or without one. It is stated by the
members of the envelope that count, so that the others may be anything. -/
structure Asks (action : String) (data : Option Json) (e : Json) : Prop where
  envelope : checkEnvelope e = .ok ()
  kind : e.get? "kind" = some (.string "request")
  module : e.get? "module" = some (.string "dns")
  action : e.get? "action" = some (.string action)
  data : e.get? "data" = data

/-- The declaration of the action that reads the switches. -/
def reading : Action :=
  ⟨"get_settings", false, none, ⟨keys, []⟩⟩

/-- The declaration of the action that replaces them. -/
def replacing : Action :=
  ⟨"update_settings", true, some ⟨keys, []⟩, ⟨["result"], []⟩⟩

/-- The event of replaced switches. -/
def announcement (data : Json) : Notice :=
  .notify (.notification "dns" "update_settings" (some data))

/-- The answer to a request that replaced the switches. -/
def done : Json :=
  .object [("result", .bool true)]

variable {s : Settings} {r : Registry} {e : Json} {m : Module} {a : Action}

theorem handling_reading (s : Settings) (e : Json) :
    (holding s).handling reading e =
      (⟨s, .returned s.toJson, [], [], 0⟩ : Handling Settings) := by
  show handle "get_settings" (e.get? "data") s = _
  simp [handle]

theorem handling_replacing {data : Json} {t : Settings} (hdata : e.get? "data" = some data)
    (h : Settings.ofJson data = .ok t) (s : Settings) :
    (holding s).handling replacing e =
      (⟨t, .returned done, [("update_settings", some data)], [], 0⟩ : Handling Settings) := by
  show handle "update_settings" (e.get? "data") s = _
  simp [handle, hdata, h, done]

theorem handling_refusing {data : Json} {c : Json.Cause} (hdata : e.get? "data" = some data)
    (h : Settings.ofJson data = .error c) (s : Settings) :
    (holding s).handling replacing e =
      (⟨s, .failed (.invalidData c.message), [], [], 0⟩ : Handling Settings) := by
  show handle "update_settings" (e.get? "data") s = _
  simp [handle, hdata, h]

/-- The handler posts nothing while it runs. What it announces is published with the reply. -/
theorem posted_handle (action : String) (data : Option Json) (s : Settings) :
    (handle action data s).posted = [] := by
  unfold handle
  by_cases hread : action = "get_settings"
  · rw [if_pos hread]
  · rw [if_neg hread]
    by_cases hreplace : action = "update_settings"
    · rw [if_pos hreplace]
      cases data with
      | none => rfl
      | some data => cases hdata : Settings.ofJson data <;> simp only [hdata]
    · rw [if_neg hreplace]

theorem checkReply_reading (s : Settings) : checkReply reading s.toJson = .ok () := by
  rw [Settings.toJson_eq]
  cases s with
  | mk x y z => cases x <;> cases y <;> cases z <;> decide

theorem checkReply_replacing : checkReply replacing done = .ok () := by
  decide

theorem action?_eq_some_iff {name : String} :
    (holding s).action? name = some a ↔
      a = reading ∧ name = "get_settings" ∨ a = replacing ∧ name = "update_settings" := by
  have hactions : (holding s).action? name = [reading, replacing].find? (·.name = name) := rfl
  rw [hactions]
  by_cases hread : name = "get_settings"
  · simp [hread, reading, eq_comm]
  · by_cases hreplace : name = "update_settings"
    · simp [hreplace, reading, replacing, eq_comm]
    · simp [hread, hreplace, reading, replacing, eq_comm]

/-- What an accepted request for the module asks, and what its payload is. The shape of the action
has been checked by then, so that the payload has exactly the three keys, with values of any kind.
-/
theorem cases_of_accepted (hr : Holds s r) (he : e.Ordered) (hmodule : echoed e "module" = "dns")
    (h : Accepted r e m a) :
    m = holding s ∧
      (a = reading ∧ echoed e "action" = "get_settings" ∨
        a = replacing ∧ echoed e "action" = "update_settings" ∧
          ∃ fromDhcp dnssec forwarding,
            e.get? "data" = some (.object (switches fromDhcp dnssec forwarding))) := by
  obtain ⟨hfound, hact⟩ := Registry.resolve_eq_some_iff.mp h.route
  rw [hmodule, hr] at hfound
  cases hfound
  refine ⟨rfl, ?_⟩
  rcases action?_eq_some_iff.mp hact with ⟨rfl, hname⟩ | ⟨rfl, hname⟩
  · exact .inl ⟨rfl, hname⟩
  · refine .inr ⟨rfl, hname, ?_⟩
    have hpayload := h.payload
    cases hdata : e.get? "data" with
    | none =>
        rw [hdata] at hpayload
        cases hpayload
    | some data =>
        rw [hdata] at hpayload
        obtain ⟨members, rfl, htakes⟩ := checkShape_eq_ok_iff.mp hpayload
        obtain ⟨fromDhcp, dnssec, forwarding, rfl⟩ :=
          eq_switches_of_takes (Json.ordered_of_get? he hdata).1 htakes
        exact ⟨fromDhcp, dnssec, forwarding, rfl⟩


/-! ### One exchange -/

/-- The payload with which an exchange replaced the switches: the one of an update that got a
payload in its reply. A reply with error records means that nothing was replaced. -/
def replaced? (x : Exchange) : Option Json :=
  if echoed x.request "module" = "dns" ∧ echoed x.request "action" = "update_settings" ∧
      x.reply.data.isSome then x.request.get? "data"
  else none

/-- The notice broadcasts an envelope of the module. -/
def isOwn : Notice → Bool
  | .notify e => e.module = "dns"
  | .reset => false

/-- What an exchange does to the module, when it finds it with the switches `s` and leaves it with
`t`. The payload is compared as a value and not as switches, since what is answered and announced is
a value. -/
structure Moves (x : Exchange) (s t : Settings) : Prop where
  registry : Holds t (dispatch x.registry x.request).registry
  value : t.toJson = (replaced? x).getD s.toJson
  published : x.published.filter isOwn = (replaced? x).toList.map announcement
  unchanged : x.reply.data = none → t = s

variable {x : Exchange}

theorem replaced?_of_data_eq_none (h : x.reply.data = none) : replaced? x = none := by
  simp [replaced?, h]

theorem replaced?_of_module_ne (h : echoed x.request "module" ≠ "dns") : replaced? x = none := by
  simp [replaced?, h]

theorem replaced?_of_action_ne (h : echoed x.request "action" ≠ "update_settings") :
    replaced? x = none := by
  simp [replaced?, h]

/-- An exchange that replaced nothing, announced nothing and left the module as it was. -/
theorem Moves.of_idle (hr : Holds s (dispatch x.registry x.request).registry)
    (hnone : replaced? x = none) (hpublished : x.published.filter isOwn = []) : Moves x s s where
  registry := hr
  value := by rw [hnone]; rfl
  published := by rw [hpublished, hnone]; rfl
  unchanged := fun _ => rfl

theorem moves_of_not_accepted (hr : Holds s x.registry)
    (h : ¬∃ m a, Accepted x.registry x.request m a) : Moves x s s := by
  obtain ⟨w, hw⟩ := refused_of_not_accepted h
  have hd := dispatch_of_refused hw
  have hdata : x.reply.data = none := by
    unfold Exchange.reply
    rw [hd]
    rfl
  have hpublished : x.published = [] := by
    unfold Exchange.published
    rw [hd]
  refine .of_idle ?_ (replaced?_of_data_eq_none hdata) ?_
  · rw [hd]
    exact hr
  · rw [hpublished]
    rfl

/-- A request for another module. Whatever that module raises is published under its own name, so
that it counts as no announcement of this one. -/
theorem moves_of_module_ne (hr : Holds s x.registry) (h : Accepted x.registry x.request m a)
    (hmodule : echoed x.request "module" ≠ "dns") : Moves x s s := by
  have hname : m.name ≠ "dns" := h.module_name ▸ hmodule
  refine .of_idle ?_ (replaced?_of_module_ne hmodule) ?_
  · unfold Holds
    rw [registry_of_accepted h, Registry.find?_register]
    exact (if_neg hname).trans hr
  · -- What it publishes bears the name of the other module.
    rw [Exchange.published_eq_events, List.filter_eq_nil_iff]
    intro notice hnotice
    unfold Exchange.events Exchange.target at hnotice
    rw [h.route] at hnotice
    dsimp only at hnotice
    split at hnotice
    · obtain ⟨event, -, rfl⟩ := List.mem_map.mp hnotice
      simpa [isOwn] using hname
    · cases hnotice

theorem holds_of_accepted (hacc : Accepted r e (holding s) a) {t : Settings}
    (ht : ((holding s).handling a e).state = t) : Holds t (dispatch r e).registry := by
  have hname : ((holding s).handled a e).name = "dns" := rfl
  unfold Holds
  rw [registry_of_accepted hacc, Registry.find?_register, if_pos hname]
  unfold Module.handled
  rw [ht]
  rfl

theorem moves_of_reading (h : Accepted x.registry x.request (holding s) reading)
    (haction : echoed x.request "action" = "get_settings") : Moves x s s := by
  have hstate : ((holding s).handling reading x.request).state = s :=
    congrArg Handling.state (handling_reading s _)
  refine .of_idle (holds_of_accepted h hstate) (replaced?_of_action_ne ?_) ?_
  · simp [haction]
  · have hnone : x.published = [] := by
      refine x.published_of_not_mutating fun n b hroute => ?_
      have hfound : x.target = some (holding s, reading) := h.route
      rw [hfound] at hroute
      cases hroute
      rfl
    rw [hnone]
    rfl

/-- An update stores its payload and announces it, or is refused for its payload and does
nothing. -/
theorem moves_of_replacing {fromDhcp dnssec forwarding : Json}
    (h : Accepted x.registry x.request (holding s) replacing)
    (hmodule : echoed x.request "module" = "dns")
    (haction : echoed x.request "action" = "update_settings")
    (hdata : x.request.get? "data" = some (.object (switches fromDhcp dnssec forwarding))) :
    ∃ t, Moves x s t := by
  cases hread : Settings.ofJson (.object (switches fromDhcp dnssec forwarding)) with
  | error c =>
      have hhandling := handling_refusing hdata hread s
      have hreply : x.reply.data = none := by
        unfold Exchange.reply
        rw [(dispatch_of_fails (.handler h (congrArg Handling.outcome hhandling))).1]
        rfl
      refine ⟨s, .of_idle (holds_of_accepted h (congrArg Handling.state hhandling))
        (replaced?_of_data_eq_none hreply) ?_⟩
      have hnone : x.published = [] :=
        (dispatch_of_fails (.handler h (congrArg Handling.outcome hhandling))).2
      rw [hnone]
      rfl
  | ok t =>
      have hhandling := handling_replacing hdata hread s
      have hd := dispatch_of_answers h (congrArg Handling.outcome hhandling) checkReply_replacing
      have hreply : x.reply.data = some done := by
        unfold Exchange.reply
        rw [hd]
        rfl
      have hreplaced : replaced? x = some (.object (switches fromDhcp dnssec forwarding)) := by
        unfold replaced?
        rw [if_pos ⟨hmodule, haction, by rw [hreply]; rfl⟩, hdata]
      have hpublished :
          x.published = [announcement (.object (switches fromDhcp dnssec forwarding))] := by
        unfold Exchange.published
        rw [hd, hhandling]
        rfl
      refine ⟨t, holds_of_accepted h (congrArg Handling.state hhandling), ?_, ?_, ?_⟩
      · rw [hreplaced]
        exact toJson_of_ofJson hread
      · rw [hpublished, hreplaced]
        rfl
      · intro hnone
        rw [hreply] at hnone
        cases hnone

/-- Whatever is asked of whom, the module is found with switches again. So the run goes on as it
began. -/
theorem moves_of_holds (hr : Holds s x.registry) (hx : x.request.Ordered) : ∃ t, Moves x s t := by
  by_cases hacc : ∃ m a, Accepted x.registry x.request m a
  · obtain ⟨m, a, h⟩ := hacc
    by_cases hmodule : echoed x.request "module" = "dns"
    · obtain ⟨rfl, ⟨rfl, haction⟩ | ⟨rfl, haction, _, _, _, hdata⟩⟩ :=
        cases_of_accepted hr hx hmodule h
      · exact ⟨s, moves_of_reading h haction⟩
      · exact moves_of_replacing h hmodule haction hdata
    · exact ⟨s, moves_of_module_ne hr h hmodule⟩
  · exact ⟨s, moves_of_not_accepted hr hacc⟩

/-! ### Valid requests -/

theorem Asks.echoed_module {name : String} {data : Option Json} (h : Asks name data e) :
    echoed e "module" = "dns" :=
  echoed_of_get? h.module

theorem Asks.echoed_action {name : String} {data : Option Json} (h : Asks name data e) :
    echoed e "action" = name :=
  echoed_of_get? h.action

theorem Asks.accepted {data : Option Json} (hr : Holds s r) (h : Asks a.name data e)
    (ha : (holding s).action? a.name = some a) (hdata : checkRequest a data = .ok ()) :
    Accepted r e (holding s) a where
  envelope := h.envelope
  kind := h.kind
  route := by
    rw [h.echoed_module, h.echoed_action]
    exact Registry.resolve_eq_some_iff.mpr ⟨hr, ha⟩
  payload := by rwa [h.data]

/-- A valid request for the switches is answered with those that the module has. -/
theorem reply_of_reading (hr : Holds s x.registry) (h : Asks "get_settings" none x.request) :
    x.reply = .reply "dns" "get_settings" s.toJson := by
  have hacc : Accepted x.registry x.request (holding s) reading :=
    Asks.accepted hr h (action?_eq_some_iff.mpr (.inl ⟨rfl, rfl⟩)) rfl
  have houtcome : ((holding s).handling reading x.request).outcome = .returned s.toJson :=
    congrArg Handling.outcome (handling_reading s _)
  unfold Exchange.reply
  rw [dispatch_of_answers hacc houtcome (checkReply_reading s), h.echoed_module, h.echoed_action]

/-- A valid update that spells switches is answered. Such an update is never refused for its
payload. -/
theorem reply_of_replacing (hr : Holds s x.registry) (t : Settings)
    (h : Asks "update_settings" (some t.toJson) x.request) :
    x.reply = .reply "dns" "update_settings" done := by
  have htakes : checkRequest replacing (some t.toJson) = .ok () := by
    rw [Settings.toJson_eq]
    cases t with
    | mk forwarding dnssec fromDhcp =>
        cases forwarding <;> cases dnssec <;> cases fromDhcp <;> decide
  have hacc : Accepted x.registry x.request (holding s) replacing :=
    Asks.accepted hr h (action?_eq_some_iff.mpr (.inr ⟨rfl, rfl⟩)) htakes
  have houtcome : ((holding s).handling replacing x.request).outcome = .returned done :=
    congrArg Handling.outcome (handling_replacing h.data (ofJson_toJson t) s)
  unfold Exchange.reply
  rw [dispatch_of_answers hacc houtcome checkReply_replacing, h.echoed_module, h.echoed_action]

/-- The module sends nothing but what its requests publish. -/
theorem posted_of_holds (hr : Holds s x.registry) (hmodule : echoed x.request "module" = "dns") :
    (dispatch x.registry x.request).posted = [] := by
  by_cases hacc : ∃ m a, Accepted x.registry x.request m a
  · obtain ⟨m, a, h⟩ := hacc
    obtain ⟨hfound, -⟩ := Registry.resolve_eq_some_iff.mp h.route
    rw [hmodule, hr] at hfound
    cases hfound
    have hposted : ((holding s).handling a x.request).posted = [] := posted_handle ..
    rw [dispatch_of_accepted h]
    cases conclude a ((holding s).handling a x.request).outcome <;> exact hposted
  · obtain ⟨w, hw⟩ := refused_of_not_accepted hacc
    rw [dispatch_of_refused hw]

/-! ### Runs -/

theorem Holds.elapse (hr : Holds s r) (ms : Nat) : Holds s (r.elapse ms).1 := by
  unfold Holds
  rw [Registry.find?_elapse, hr]
  rfl

/-- The payloads of the updates that got a payload in their replies, the oldest first. -/
def updates (xs : List Exchange) : List Json :=
  xs.filterMap replaced?

/-- The payload of the newest of those updates, or `start` when there was none. -/
def latest (start : Json) (xs : List Exchange) : Json :=
  (updates xs).getLast?.getD start

theorem updates_cons (x : Exchange) (xs : List Exchange) :
    updates (x :: xs) = (replaced? x).toList ++ updates xs := by
  unfold updates
  rw [List.filterMap_cons]
  cases replaced? x <;> rfl

theorem latest_cons (start : Json) (x : Exchange) (xs : List Exchange) :
    latest start (x :: xs) = latest ((replaced? x).getD start) xs := by
  unfold latest
  rw [updates_cons]
  cases replaced? x with
  | none => rfl
  | some data => simp [List.getLast?_cons]

variable {turns : List Turn}

theorem mem_of_exchanges (hx : x ∈ exchanges r turns) : .request x.request ∈ turns := by
  induction turns generalizing r with
  | nil => cases hx
  | cons t rest ih =>
      cases t with
      | request e =>
          rcases List.mem_cons.mp hx with rfl | hx
          · exact List.mem_cons_self
          · exact List.mem_cons_of_mem _ (ih hx)
      | pause ms => exact List.mem_cons_of_mem _ (ih hx)

/-- Every exchange of a run finds the module with the switches of the newest update before it. By
induction on the turns; time that passes leaves the switches as they are. -/
theorem holds_of_exchanges (hr : Holds s r) (hordered : ∀ e, .request e ∈ turns → e.Ordered)
    {before after : List Exchange} (h : exchanges r turns = before ++ x :: after) :
    ∃ t, Holds t x.registry ∧ t.toJson = latest s.toJson before := by
  induction turns generalizing s r before with
  | nil => simp [exchanges] at h
  | cons turn rest ih =>
      have hrest : ∀ e, .request e ∈ rest → e.Ordered :=
        fun e he => hordered e (List.mem_cons_of_mem _ he)
      cases turn with
      | pause ms => exact ih (hr.elapse ms) hrest h
      | request e =>
          cases before with
          | nil =>
              obtain ⟨rfl, -⟩ := List.cons.inj h
              exact ⟨s, hr, rfl⟩
          | cons y ys =>
              obtain ⟨rfl, hlater⟩ := List.cons.inj h
              have hmoves : ∃ t, Moves ⟨r, e⟩ s t :=
                moves_of_holds hr (hordered e List.mem_cons_self)
              obtain ⟨t, ht⟩ := hmoves
              obtain ⟨u, hu, hvalue⟩ := ih ht.registry hrest hlater
              exact ⟨u, hu, by rw [hvalue, latest_cons, ht.value]⟩

/-- The module is found after a run, too. -/
theorem holds_of_run {router : Router} (hr : Holds s router.registry)
    (hordered : ∀ e, .request e ∈ turns → e.Ordered) :
    ∃ t, Holds t (router.run turns).registry := by
  induction turns generalizing s router with
  | nil => exact ⟨s, hr⟩
  | cons turn rest ih =>
      have hrest : ∀ e, .request e ∈ rest → e.Ordered :=
        fun e he => hordered e (List.mem_cons_of_mem _ he)
      have hrun : router.run (turn :: rest) = (router.turn turn).run rest := rfl
      rw [hrun]
      cases turn with
      | pause ms => exact @ih s (router.turn (.pause ms)) (hr.elapse ms) hrest
      | request e =>
          have hmoves : ∃ t, Moves ⟨router.registry, e⟩ s t :=
            moves_of_holds hr (hordered e List.mem_cons_self)
          obtain ⟨t, ht⟩ := hmoves
          exact @ih t (router.turn (.request e)) ht.registry hrest

theorem holds_of_mem (hr : Holds s r) (hordered : ∀ e, .request e ∈ turns → e.Ordered)
    (hx : x ∈ exchanges r turns) : ∃ t, Holds t x.registry := by
  obtain ⟨before, after, h⟩ := List.append_of_mem hx
  obtain ⟨t, ht, -⟩ := holds_of_exchanges hr hordered h
  exact ⟨t, ht⟩

/-- What the requests of a run publish in the name of the module. -/
theorem published_of_exchanges (hr : Holds s r)
    (hordered : ∀ e, .request e ∈ turns → e.Ordered) :
    ((exchanges r turns).flatMap Exchange.published).filter isOwn =
      (updates (exchanges r turns)).map announcement := by
  have heach : ∀ x ∈ exchanges r turns,
      x.published.filter isOwn = (replaced? x).toList.map announcement := by
    intro x hx
    obtain ⟨t, ht⟩ := holds_of_mem hr hordered hx
    obtain ⟨u, hu⟩ := moves_of_holds ht (hordered _ (mem_of_exchanges hx))
    exact hu.published
  generalize exchanges r turns = xs at heach
  induction xs with
  | nil => rfl
  | cons x rest ih =>
      rw [List.flatMap_cons, List.filter_append, heach x List.mem_cons_self,
        ih fun y hy => heach y (List.mem_cons_of_mem _ hy), updates_cons, List.map_append]

/-- **The module's answers and announcements follow its successful updates.** Over every run of
requests and pauses, whatever else is registered: a valid `get_settings` is answered with the
payload of the newest earlier update that got a payload in its reply, or with the switches as at
start when there was none; what is published in the name of the module are the payloads of those
updates, in order; and a request whose reply carries error records leaves the module as it was. The
module sends nothing else, and no valid update is refused. -/
theorem answers_follow_updates (hr : r.find? "dns" = some module)
    (hordered : ∀ e, .request e ∈ turns → e.Ordered) :
    (∀ before x after, exchanges r turns = before ++ x :: after →
      Asks "get_settings" none x.request →
      x.reply = .reply "dns" "get_settings" (latest Settings.initial.toJson before)) ∧
    ((Router.start r).run turns).published.filter isOwn =
      (updates (exchanges r turns)).map announcement ∧
    (∀ x ∈ exchanges r turns, x.reply.errors.isSome = true →
      (dispatch x.registry x.request).registry.find? "dns" = x.registry.find? "dns") ∧
    (∀ x ∈ exchanges r turns, echoed x.request "module" = "dns" →
      (dispatch x.registry x.request).posted = []) ∧
    (∀ m ms, ((Router.start r).run turns).registry.find? "dns" = some m →
      (m.elapse ms m.state).2 = []) ∧
    (∀ x ∈ exchanges r turns, ∀ t : Settings,
      Asks "update_settings" (some t.toJson) x.request →
      x.reply = .reply "dns" "update_settings" done) := by
  have hstart : Holds .initial r := hr
  refine ⟨?_, ?_, ?_, ?_, ?_, ?_⟩
  · intro before x after hsplit hasks
    obtain ⟨t, ht, hvalue⟩ := holds_of_exchanges hstart hordered hsplit
    rw [reply_of_reading ht hasks, hvalue]
  · rw [Router.run_published]
    exact published_of_exchanges hstart hordered
  · intro x hx herrors
    obtain ⟨s, hs⟩ := holds_of_mem hstart hordered hx
    obtain ⟨t, ht⟩ := moves_of_holds hs (hordered _ (mem_of_exchanges hx))
    have hdata : x.reply.data = none := by
      rcases fails_or_answers x.registry x.request with ⟨w, hw⟩ | ⟨v, hv⟩
      · unfold Exchange.reply
        rw [(dispatch_of_fails hw).1]
        rfl
      · unfold Exchange.reply at herrors
        rw [reply_of_answers hv] at herrors
        cases herrors
    have hsame := ht.unchanged hdata
    subst hsame
    exact ht.registry.trans hs.symm
  · intro x hx hmodule
    obtain ⟨s, hs⟩ := holds_of_mem hstart hordered hx
    exact posted_of_holds hs hmodule
  · intro m ms hfound
    have hrun : ∃ s, Holds s ((Router.start r).run turns).registry := holds_of_run hstart hordered
    obtain ⟨s, hs⟩ := hrun
    cases hs.symm.trans hfound
    rfl
  · intro x hx t hasks
    obtain ⟨s, hs⟩ := holds_of_mem hstart hordered hx
    exact reply_of_replacing hs t hasks

/-- An update that turns all three switches over. -/
def turningOver : Json :=
  .ofMembers [("module", .string "dns"), ("action", .string "update_settings"),
    ("kind", .string "request"), ("data", Settings.toJson ⟨false, false, true⟩)]

/-- A look at the switches. -/
def looking : Json :=
  .ofMembers [("module", .string "dns"), ("action", .string "get_settings"),
    ("kind", .string "request")]

theorem answers_follow_updates_turningOver :
    (exchanges [module] [.request turningOver, .request looking]).map Exchange.reply =
        [.reply "dns" "update_settings" done,
          .reply "dns" "get_settings" (Settings.toJson ⟨false, false, true⟩)] ∧
      ((Router.start [module]).run [.request turningOver, .request looking]).published.filter
          isOwn = [announcement (Settings.toJson ⟨false, false, true⟩)] := by
  have hordered : ∀ e, .request e ∈ [Turn.request turningOver, .request looking] →
      e.Ordered := by
    intro e he
    simp only [List.mem_cons, List.not_mem_nil, or_false, Turn.request.injEq] at he
    rcases he with rfl | rfl <;> decide
  have hupdating : Asks "update_settings" (some (Settings.toJson ⟨false, false, true⟩))
      turningOver := ⟨rfl, rfl, rfl, rfl, rfl⟩
  have hlooking : Asks "get_settings" none looking :=
    ⟨rfl, rfl, rfl, rfl, rfl⟩
  have hxs : ∃ x y, exchanges [module] [.request turningOver, .request looking] = [x, y] ∧
      x.request = turningOver ∧ y.request = looking :=
    ⟨⟨[module], turningOver⟩, ⟨(dispatch [module] turningOver).registry, looking⟩, rfl, rfl, rfl⟩
  obtain ⟨hget, hpublished, -, -, -, hupdate⟩ :=
    answers_follow_updates (r := [module]) rfl hordered
  obtain ⟨x, y, hxs, hx, hy⟩ := hxs
  rw [← hx] at hupdating
  rw [← hy] at hlooking
  rw [hxs] at hget hpublished hupdate ⊢
  have hdone := hupdate x (by simp) _ hupdating
  have hreplaced : replaced? x = some (Settings.toJson ⟨false, false, true⟩) := by
    unfold replaced?
    rw [if_pos ⟨hupdating.echoed_module, hupdating.echoed_action, by rw [hdone]; rfl⟩,
      hupdating.data]
  have hidle : replaced? y = none := by
    refine replaced?_of_action_ne ?_
    rw [hlooking.echoed_action]
    decide
  have hreply := hget [x] y [] rfl hlooking
  simp only [latest, updates, List.filterMap_cons, List.filterMap_nil, hreplaced, hidle,
    List.getLast?_singleton, Option.getD_some, List.map_cons, List.map_nil] at hreply hpublished
  exact ⟨by rw [List.map_cons, List.map_cons, hdone, hreply]; rfl, hpublished⟩

end Switchyard.Modules.Dns
