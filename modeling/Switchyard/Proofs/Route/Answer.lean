import Switchyard.Proofs.Route.Dispatch

/-!
# Switchyard.Proofs.Route.Answer

**One reply for every request.** Whatever the value, the registry and the handlers are, the reply
has the request's module and action, and either the handler's answer or one error record; which of
them is fixed by the first stage that fails.

That a handler is called at most once cannot be read off a reply. `Module.recorded` is a module
that does what another does and keeps a log of its handler's calls in its state besides. A
dispatch over recorded modules replies and sends as one over the modules themselves
(`dispatch_recorded_of_accepted`), and its log grows by one call, of the requested action with the
request's payload, or by none (`dispatch_recorded_of_not_accepted`).

The first part of the module is about recorded modules, which are a means only: a log in the state
of a module lets a statement about calls be made of a program that does not keep any. Recorded and
plain registries are compared by what they find under each name (`Registry.Records`), since a
dispatch registers the module that it has handled once more and so changes the list.
-/

namespace Switchyard.Route

variable {r : Registry} {e : Json} {m : Module} {a : Action}

/-! ### Recorded calls -/

/-- A call of a handler. -/
structure Invocation where
  action : String
  data : Option Json

/-- The calls of the handlers, by the names of their modules and in order. -/
abbrev CallLog := String → List Invocation

/-- Notes one more call. -/
def CallLog.note (name : String) (call : Invocation) (log : CallLog) : CallLog :=
  fun n => if n = name then log n ++ [call] else log n

/-- A module that keeps a log of its handler's calls, and for the rest is as it was. The log is in
its state, beside the state of the module. -/
def Module.recorded (calls : List Invocation) (m : Module) : Module where
  name := m.name
  actions := m.actions
  State := m.State × List Invocation
  state := (m.state, calls)
  handle action data s :=
    let h := m.handle action data s.1
    ⟨(h.state, s.2 ++ [⟨action, data⟩]), h.outcome, h.raised, h.posted, h.duration⟩
  elapse ms s :=
    let (state, notices) := m.elapse ms s.1
    ((state, s.2), notices)

/-- The registry of recorded modules, with the calls so far. -/
def Registry.recorded (log : CallLog) (r : Registry) : Registry :=
  r.map fun m => m.recorded (log m.name)

/-- A registry finds the recorded modules of another one, with the calls of this log. This is what
stays when a module is registered again. -/
def Registry.Records (log : CallLog) (r recorded : Registry) : Prop :=
  ∀ name, recorded.find? name = (r.find? name).map (Module.recorded (log name))

theorem records_recorded (log : CallLog) (r : Registry) : r.Records log (r.recorded log) := by
  intro name
  induction r with
  | nil => rfl
  | cons n rest ih =>
      have hcons : Registry.recorded log (n :: rest) =
          n.recorded (log n.name) :: Registry.recorded log rest := rfl
      rw [hcons, Registry.find?_cons, Registry.find?_cons, ih]
      by_cases hn : n.name = name
      · rw [if_pos hn, if_pos (show (n.recorded _).name = name from hn), hn]
        rfl
      · rw [if_neg hn, if_neg (show ¬(n.recorded _).name = name from hn)]

/-- Handling a request adds one call to the log. -/
theorem handled_recorded (calls : List Invocation) (m : Module) (a : Action) (e : Json) :
    (m.recorded calls).handled a e =
      (m.handled a e).recorded (calls ++ [⟨a.name, e.get? "data"⟩]) := rfl

theorem resolve_recorded (log : CallLog) (r : Registry) (module action : String) :
    (r.recorded log).resolve module action =
      (r.resolve module action).map fun found => (found.1.recorded (log module), found.2) := by
  unfold Registry.resolve
  rw [records_recorded log r module]
  cases r.find? module with
  | none => rfl
  | some m =>
      have hact : (m.recorded (log module)).action? action = m.action? action := rfl
      rw [Option.map_some, Option.bind_some, Option.bind_some, hact, Option.map_map]
      rfl

/-- Recorded modules accept what the modules themselves accept, and refuse what they refuse. -/
theorem accept_recorded (log : CallLog) (r : Registry) (e : Json) :
    accept (r.recorded log) e =
      (accept r e).map fun found => (found.1.recorded (log (echoed e "module")), found.2) := by
  unfold accept
  cases checkEnvelope e with
  | error v => rfl
  | ok u =>
      dsimp only
      by_cases hkind : echoed e "kind" ≠ MessageKind.request.spelling
      · rw [if_pos hkind, if_pos hkind]
        rfl
      · rw [if_neg hkind, if_neg hkind, resolve_recorded]
        cases r.resolve (echoed e "module") (echoed e "action") with
        | none => rfl
        | some found =>
            dsimp only [Option.map_some]
            cases checkRequest found.2 (e.get? "data") <;> rfl

theorem Accepted.recorded (log : CallLog) (h : Accepted r e m a) :
    Accepted (r.recorded log) e (m.recorded (log (echoed e "module"))) a := by
  have hacc := accept_recorded log r e
  rw [accept_of_accepted h] at hacc
  exact (accepted_of_accept hacc).1

/-! ### Dispatches over recorded modules -/

/-- A dispatch over recorded modules does what one over the modules themselves does, and leaves the
calls as they are in `log`. All but the registry is equal. -/
structure Shadows (log : CallLog) (d recorded : Dispatched) : Prop where
  reply : recorded.reply = d.reply
  posted : recorded.posted = d.posted
  published : recorded.published = d.published
  duration : recorded.duration = d.duration
  registry : d.registry.Records log recorded.registry

theorem dispatch_recorded_of_not_accepted (log : CallLog) (h : ¬∃ m a, Accepted r e m a) :
    Shadows log (dispatch r e) (dispatch (r.recorded log) e) := by
  obtain ⟨x, hx⟩ := refused_of_not_accepted h
  have hrec : accept (r.recorded log) e = .error x := by
    rw [accept_recorded, hx]
    rfl
  rw [dispatch_of_refused hx, dispatch_of_refused hrec]
  exact ⟨rfl, rfl, rfl, rfl, records_recorded log r⟩

/-- The registry after an accepted request: one call was noted, under the requested module. -/
theorem records_of_accepted (log : CallLog) (h : Accepted r e m a) :
    (dispatch r e).registry.Records
      (log.note (echoed e "module") ⟨echoed e "action", e.get? "data"⟩)
      (dispatch (r.recorded log) e).registry := by
  intro name
  have hname : (m.handled a e).name = echoed e "module" := h.module_name
  rw [registry_of_accepted h, registry_of_accepted (h.recorded log), handled_recorded,
    Registry.find?_register, Registry.find?_register, records_recorded log r name]
  unfold CallLog.note
  -- The module that was called took its new place in both registries; the others stand as before.
  by_cases hn : name = echoed e "module"
  · subst hn
    rw [if_pos hname, if_pos rfl, ← h.action_name]
    exact if_pos hname
  · have hne : (m.handled a e).name ≠ name := fun heq => hn (heq.symm.trans hname)
    rw [if_neg hne, if_neg hn]
    exact if_neg hne

theorem dispatch_recorded_of_accepted (log : CallLog) (h : Accepted r e m a) :
    Shadows (log.note (echoed e "module") ⟨echoed e "action", e.get? "data"⟩)
      (dispatch r e) (dispatch (r.recorded log) e) := by
  have hrecords := records_of_accepted log h
  -- Both dispatches conclude from one outcome: the recorded handler's is the handler's own.
  have hout : ((m.recorded (log (echoed e "module"))).handling a e).outcome =
      (m.handling a e).outcome := rfl
  rw [dispatch_of_accepted h, dispatch_of_accepted (h.recorded log), hout] at hrecords ⊢
  cases hconc : conclude a (m.handling a e).outcome with
  | error x =>
      rw [hconc] at hrecords
      exact ⟨rfl, rfl, rfl, rfl, hrecords⟩
  | ok v =>
      rw [hconc] at hrecords
      exact ⟨rfl, rfl, rfl, rfl, hrecords⟩

/-! ### The reply -/

/-- Every reply names the route of its request, and carries either a payload or error records. -/
theorem reply_shape (r : Registry) (e : Json) :
    (dispatch r e).reply.kind = .reply ∧ (dispatch r e).reply.module = echoed e "module" ∧
      (dispatch r e).reply.action = echoed e "action" ∧
      ((dispatch r e).reply.data.isSome = true ↔ (dispatch r e).reply.errors = none) := by
  rcases fails_or_answers r e with ⟨x, hx⟩ | ⟨v, hv⟩
  · rw [(dispatch_of_fails hx).1]
    exact ⟨rfl, rfl, rfl, by simp [Envelope.errorReply]⟩
  · rw [reply_of_answers hv]
    exact ⟨rfl, rfl, rfl, by simp [Envelope.reply]⟩

/-- The reply carries the handler's answer when every stage passes, and no other payload. -/
theorem data_eq_some_iff {v : Json} : (dispatch r e).reply.data = some v ↔ Answers r e v := by
  constructor
  · intro h
    rcases fails_or_answers r e with ⟨x, hx⟩ | ⟨w, hw⟩
    · rw [(dispatch_of_fails hx).1] at h
      cases h
    · rw [reply_of_answers hw] at h
      cases h
      exact hw
  · intro h
    rw [reply_of_answers h]
    rfl

/-- The reply carries the error record of the first stage that fails, and no other records. There is
exactly one such record. -/
theorem errors_eq_some_iff {xs : List ErrorRecord} :
    (dispatch r e).reply.errors = some xs ↔ ∃ x, xs = [x] ∧ Fails r e x := by
  constructor
  · intro h
    rcases fails_or_answers r e with ⟨x, hx⟩ | ⟨w, hw⟩
    · rw [(dispatch_of_fails hx).1] at h
      cases h
      exact ⟨x, rfl, hx⟩
    · rw [reply_of_answers hw] at h
      cases h
  · rintro ⟨x, rfl, hx⟩
    rw [(dispatch_of_fails hx).1]
    rfl

/-- **The reply to any value, stage by stage.** It is a reply with the module and the action of the
request, and carries either a payload or error records. The payload is the handler's answer when
every stage passes; the error record is the one of the first stage that fails. The handler of an
accepted request is called once, with the requested action and the payload as it came, and no other
handler is called at all. -/
theorem dispatch_replies (r : Registry) (e : Json) :
    (dispatch r e).reply.kind = .reply ∧
    TextOf e "module" (dispatch r e).reply.module ∧
    TextOf e "action" (dispatch r e).reply.action ∧
    ((dispatch r e).reply.data.isSome = true ↔ (dispatch r e).reply.errors = none) ∧
    (∀ v, (dispatch r e).reply.data = some v ↔ Answers r e v) ∧
    (∀ xs, (dispatch r e).reply.errors = some xs ↔ ∃ x, xs = [x] ∧ Fails r e x) ∧
    (∀ log m a, Accepted r e m a →
      Shadows (log.note (echoed e "module") ⟨echoed e "action", e.get? "data"⟩)
        (dispatch r e) (dispatch (r.recorded log) e)) ∧
    (∀ log, (¬∃ m a, Accepted r e m a) →
      Shadows log (dispatch r e) (dispatch (r.recorded log) e)) := by
  obtain ⟨hkind, hmodule, haction, hone⟩ := reply_shape r e
  refine ⟨hkind, ?_, ?_, hone, fun v => data_eq_some_iff, fun xs => errors_eq_some_iff,
    fun log m a h => dispatch_recorded_of_accepted log h,
    fun log h => dispatch_recorded_of_not_accepted log h⟩
  · rw [hmodule]
    exact textOf_echoed e "module"
  · rw [haction]
    exact textOf_echoed e "action"

end Switchyard.Route
