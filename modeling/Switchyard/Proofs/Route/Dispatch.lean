import Switchyard.Proofs.Route.Check
import Switchyard.Proofs.Route.Registry
import Switchyard.Route.Dispatch

/-!
# Switchyard.Proofs.Route.Dispatch

What `dispatch` does with a request, stage by stage, so that no later proof has to open it.

* `Accepted` — the four stages before the handler pass. Then and only then is the handler called
  (`accept_eq_ok_iff`, `dispatch_of_accepted`); otherwise nothing is sent and no module moves
  (`dispatch_of_refused`).
* `Answers` and `Fails` — every stage passes, or the first one that fails and the error record it
  gives. Every request is in exactly one of these cases (`fails_or_answers`), and each fixes the
  reply and what is published (`dispatch_of_fails`, `dispatch_of_answers`).

Later modules use the two forms of the result. Where only the reply matters, `Answers` and `Fails`
are enough; where the module or what it sent matters, `dispatch_of_accepted` says all that a
dispatch does. A stage that fails after the handler still leaves what the handler did, which is why
nothing is said of the module in `dispatch_of_fails`.
-/

namespace Switchyard.Route

variable {r : Registry} {e : Json} {m : Module} {a : Action}

/-! ### Texts of an envelope -/

theorem echoed_of_get? {key s : String} (h : e.get? key = some (.string s)) :
    echoed e key = s := by
  simp [echoed, h, Json.string?]

/-- The text of a member, or no text where there is no such member or it is no text. It is what a
reply echoes of a request that could not be read. -/
inductive TextOf (e : Json) (key : String) : String → Prop where
  | present {s : String} (h : e.get? key = some (.string s)) : TextOf e key s
  | absent (h : ∀ s, e.get? key ≠ some (.string s)) : TextOf e key ""

theorem textOf_echoed (e : Json) (key : String) : TextOf e key (echoed e key) := by
  by_cases h : ∃ s, e.get? key = some (.string s)
  · obtain ⟨s, hs⟩ := h
    rw [echoed_of_get? hs]
    exact .present hs
  · have hnone : ∀ s, e.get? key ≠ some (.string s) := fun s hs => h ⟨s, hs⟩
    have hempty : echoed e key = "" := by
      unfold echoed
      cases hj : e.get? key with
      | none => rfl
      | some j =>
          cases j with
          | string s => exact absurd hj (hnone s)
          | _ => rfl
    rw [hempty]
    exact .absent hnone

/-! ### The stages before the handler -/

/-- Every check before the handler passes, and the request is for the action `a` of the module `m`.
The payload is the action's to check, so the action is found first. -/
structure Accepted (r : Registry) (e : Json) (m : Module) (a : Action) : Prop where
  envelope : checkEnvelope e = .ok ()
  kind : e.get? "kind" = some (.string "request")
  route : r.resolve (echoed e "module") (echoed e "action") = some (m, a)
  payload : checkRequest a (e.get? "data") = .ok ()

theorem Accepted.module_name (h : Accepted r e m a) : m.name = echoed e "module" :=
  (Registry.resolve_names h.route).1

theorem Accepted.action_name (h : Accepted r e m a) : a.name = echoed e "action" :=
  (Registry.resolve_names h.route).2

theorem accept_of_accepted (h : Accepted r e m a) : accept r e = .ok (m, a, e.get? "data") := by
  have hkind : echoed e "kind" = MessageKind.request.spelling := echoed_of_get? h.kind
  unfold accept
  simp [h.envelope, hkind, h.route, h.payload]

theorem accepted_of_accept {data : Option Json} (h : accept r e = .ok (m, a, data)) :
    Accepted r e m a ∧ data = e.get? "data" := by
  unfold accept at h
  cases henv : checkEnvelope e with
  | error v =>
      rw [henv] at h
      cases h
  | ok u =>
      rw [henv] at h
      dsimp only at h
      by_cases hkind : echoed e "kind" ≠ MessageKind.request.spelling
      · rw [if_pos hkind] at h
        cases h
      · rw [if_neg hkind] at h
        cases hroute : r.resolve (echoed e "module") (echoed e "action") with
        | none =>
            rw [hroute] at h
            cases h
        | some found =>
            obtain ⟨n, b⟩ := found
            rw [hroute] at h
            dsimp only at h
            cases hdata : checkRequest b (e.get? "data") with
            | error v =>
                rw [hdata] at h
                cases h
            | ok u =>
                rw [hdata] at h
                cases h
                -- An accepted envelope spells a kind, so that the text echoed for it is its own.
                obtain ⟨k, -, hk⟩ := kind_of_checkEnvelope henv
                have hreq : k = "request" := by
                  rw [← echoed_of_get? hk]
                  exact Decidable.not_not.mp hkind
                exact ⟨⟨henv, hreq ▸ hk, hroute, hdata⟩, rfl⟩

/-- The handler is reached exactly by the accepted requests, with the payload as it came. -/
theorem accept_eq_ok_iff {data : Option Json} :
    accept r e = .ok (m, a, data) ↔ Accepted r e m a ∧ data = e.get? "data" := by
  constructor
  · exact accepted_of_accept
  · rintro ⟨h, rfl⟩
    exact accept_of_accepted h

/-! ### What a dispatch does -/

/-- What the handler does with a request for one of its module's actions. -/
def Module.handling (m : Module) (a : Action) (e : Json) : Handling m.State :=
  m.handle a.name (e.get? "data") m.state

/-- The module after it has handled a request. -/
def Module.handled (m : Module) (a : Action) (e : Json) : Module :=
  { m with state := (m.handling a e).state }

/-- A request that is not accepted is refused before it reaches a handler. -/
theorem refused_of_not_accepted (h : ¬∃ m a, Accepted r e m a) : ∃ x, accept r e = .error x := by
  cases hacc : accept r e with
  | error x => exact ⟨x, rfl⟩
  | ok found =>
      obtain ⟨m, a, data⟩ := found
      exact absurd ⟨m, a, (accepted_of_accept hacc).1⟩ h

/-- Of a refused request nothing comes but its reply. -/
theorem dispatch_of_refused {x : Refusal} (h : accept r e = .error x) :
    dispatch r e =
      ⟨.errorReply (echoed e "module") (echoed e "action") x.record, [], [], r, 0⟩ := by
  unfold dispatch
  rw [h]

/-- An accepted request is handled once, and its reply is made of the outcome. -/
theorem dispatch_of_accepted (h : Accepted r e m a) :
    dispatch r e =
      match conclude a (m.handling a e).outcome with
      | .error x =>
        ⟨.errorReply (echoed e "module") (echoed e "action") x.record, (m.handling a e).posted, [],
          r.register (m.handled a e), (m.handling a e).duration⟩
      | .ok value =>
        ⟨.reply (echoed e "module") (echoed e "action") value, (m.handling a e).posted,
          if a.mutating then (m.handling a e).raised.map (.ofEvent m.name) else [],
          r.register (m.handled a e), (m.handling a e).duration⟩ := by
  unfold dispatch
  rw [accept_of_accepted h]
  rfl

theorem registry_of_accepted (h : Accepted r e m a) :
    (dispatch r e).registry = r.register (m.handled a e) := by
  rw [dispatch_of_accepted h]
  cases conclude a (m.handling a e).outcome <;> rfl

/-! ### The reply -/

/-- Every stage passes, and the handler answered `v`. -/
def Answers (r : Registry) (e : Json) (v : Json) : Prop :=
  ∃ m a, Accepted r e m a ∧ (m.handling a e).outcome = .returned v ∧ checkReply a v = .ok ()

/-- The first stage that fails, and the error record that it gives. Each rule has the stages before
it as hypotheses, so that no two rules apply to the same request. -/
inductive Fails (r : Registry) (e : Json) : ErrorRecord → Prop where
  /-- The value is no envelope. -/
  | envelope {v : Violation} (h : checkEnvelope e = .error v) :
      Fails r e ⟨incorrectInput, v.message⟩
  /-- The envelope is no request. -/
  | kind {k : String} (henv : checkEnvelope e = .ok ()) (h : e.get? "kind" = some (.string k))
      (hk : k ≠ "request") : Fails r e ⟨wrongKind, ""⟩
  /-- The request is for no registered action. -/
  | route (henv : checkEnvelope e = .ok ()) (hkind : e.get? "kind" = some (.string "request"))
      (h : r.resolve (echoed e "module") (echoed e "action") = none) :
      Fails r e ⟨incorrectInput, "request does not match any registered action"⟩
  /-- The payload is not what the action takes. -/
  | payload {m : Module} {a : Action} {v : Violation} (henv : checkEnvelope e = .ok ())
      (hkind : e.get? "kind" = some (.string "request"))
      (hroute : r.resolve (echoed e "module") (echoed e "action") = some (m, a))
      (h : checkRequest a (e.get? "data") = .error v) : Fails r e ⟨incorrectInput, v.message⟩
  /-- The handler fails. -/
  | handler {m : Module} {a : Action} {x : HandlerError} (hacc : Accepted r e m a)
      (h : (m.handling a e).outcome = .failed x) : Fails r e ⟨x.message, trace x.chain⟩
  /-- The handler crashes. -/
  | crash {m : Module} {a : Action} {message trace : String} (hacc : Accepted r e m a)
      (h : (m.handling a e).outcome = .crashed message trace) : Fails r e ⟨message, trace⟩
  /-- The handler's answer is not what the action gives. -/
  | answer {m : Module} {a : Action} {w : Json} {v : Violation} (hacc : Accepted r e m a)
      (hout : (m.handling a e).outcome = .returned w) (h : checkReply a w = .error v) :
      Fails r e ⟨incorrectInput, v.message⟩

theorem fails_or_answers_of_accepted (h : Accepted r e m a) :
    (∃ x, Fails r e x) ∨ ∃ v, Answers r e v := by
  cases hout : (m.handling a e).outcome with
  | failed x => exact .inl ⟨_, .handler h hout⟩
  | crashed message trace => exact .inl ⟨_, .crash h hout⟩
  | returned w =>
      cases hreply : checkReply a w with
      | error v => exact .inl ⟨_, .answer h hout hreply⟩
      | ok u => exact .inr ⟨w, m, a, h, hout, hreply⟩

/-- Some stage is the first to fail, or all of them pass. -/
theorem fails_or_answers (r : Registry) (e : Json) :
    (∃ x, Fails r e x) ∨ ∃ v, Answers r e v := by
  cases henv : checkEnvelope e with
  | error v => exact .inl ⟨_, .envelope henv⟩
  | ok u =>
      obtain ⟨k, -, hk⟩ := kind_of_checkEnvelope henv
      by_cases hreq : k = "request"
      · rw [hreq] at hk
        cases hroute : r.resolve (echoed e "module") (echoed e "action") with
        | none => exact .inl ⟨_, .route henv hk hroute⟩
        | some found =>
            obtain ⟨m, a⟩ := found
            cases hdata : checkRequest a (e.get? "data") with
            | error v => exact .inl ⟨_, .payload henv hk hroute hdata⟩
            | ok u => exact fails_or_answers_of_accepted ⟨henv, hk, hroute, hdata⟩
      · exact .inl ⟨_, .kind henv hk hreq⟩

theorem dispatch_of_answers {v : Json} (hacc : Accepted r e m a)
    (hout : (m.handling a e).outcome = .returned v) (hreply : checkReply a v = .ok ()) :
    dispatch r e =
      ⟨.reply (echoed e "module") (echoed e "action") v, (m.handling a e).posted,
        if a.mutating then (m.handling a e).raised.map (.ofEvent m.name) else [],
        r.register (m.handled a e), (m.handling a e).duration⟩ := by
  have hconc : conclude a (m.handling a e).outcome = .ok v := by
    rw [hout]
    simp [conclude, hreply]
  rw [dispatch_of_accepted hacc, hconc]

theorem reply_of_answers {v : Json} (h : Answers r e v) :
    (dispatch r e).reply = .reply (echoed e "module") (echoed e "action") v := by
  obtain ⟨m, a, hacc, hout, hreply⟩ := h
  rw [dispatch_of_answers hacc hout hreply]

/-- A refusal before the handler ends the request with its record, and nothing is published. -/
theorem fails_of_refused {x : Refusal} (h : accept r e = .error x) :
    (dispatch r e).reply = .errorReply (echoed e "module") (echoed e "action") x.record ∧
      (dispatch r e).published = [] := by
  rw [dispatch_of_refused h]
  exact ⟨rfl, rfl⟩

/-- A refusal after the handler ends the request in the same way, whatever was raised. -/
theorem fails_of_conclude {x : Refusal} (hacc : Accepted r e m a)
    (h : conclude a (m.handling a e).outcome = .error x) :
    (dispatch r e).reply = .errorReply (echoed e "module") (echoed e "action") x.record ∧
      (dispatch r e).published = [] := by
  rw [dispatch_of_accepted hacc, h]
  exact ⟨rfl, rfl⟩

/-- The first stage that fails fixes the reply, and nothing is published, even if the handler raised
an event before. -/
theorem dispatch_of_fails {x : ErrorRecord} (h : Fails r e x) :
    (dispatch r e).reply = .errorReply (echoed e "module") (echoed e "action") x ∧
      (dispatch r e).published = [] := by
  -- The first four stages refuse the request in `accept`, the last three in `conclude`.
  cases h with
  | @envelope v h =>
      have hacc : accept r e = .error (.invalid v) := by simp [accept, h]
      exact fails_of_refused hacc
  | @kind k henv h hk =>
      have hne : echoed e "kind" ≠ MessageKind.request.spelling := by rwa [echoed_of_get? h]
      have hacc : accept r e = .error (.wrongKind (echoed e "kind")) := by
        simp [accept, henv, hne]
      exact fails_of_refused hacc
  | route henv hkind h =>
      have heq : echoed e "kind" = MessageKind.request.spelling := echoed_of_get? hkind
      have hacc : accept r e = .error (.unknownRoute (echoed e "module") (echoed e "action")) := by
        simp [accept, henv, heq, h]
      exact fails_of_refused hacc
  | @payload m a v henv hkind hroute h =>
      have heq : echoed e "kind" = MessageKind.request.spelling := echoed_of_get? hkind
      have hacc : accept r e = .error (.invalid v) := by simp [accept, henv, heq, hroute, h]
      exact fails_of_refused hacc
  | @handler m a x hacc h =>
      have hconc : conclude a (m.handling a e).outcome = .error (.ofHandler x) := by
        rw [h]
        rfl
      exact fails_of_conclude hacc hconc
  | @crash m a message trace hacc h =>
      have hconc : conclude a (m.handling a e).outcome = .error (.crash message trace) := by
        rw [h]
        rfl
      exact fails_of_conclude hacc hconc
  | @answer m a w v hacc hout h =>
      have hconc : conclude a (m.handling a e).outcome = .error (.invalid v) := by
        rw [hout]
        simp [conclude, h]
      exact fails_of_conclude hacc hconc

/-! ### Requests as bytes -/

theorem dispatchBytes_of_parse {payload : Octets} (r : Registry)
    (h : Json.parse payload = .ok e) : dispatchBytes r payload = dispatch r e := by
  unfold dispatchBytes
  rw [h]

end Switchyard.Route
