import Switchyard.Proofs.Route.Dispatch

/-!
# Switchyard.Proofs.Route.Run

**What a router publishes over a run.** A router takes requests one after another; between them
time may pass, in which modules move on by themselves and send notices of their own. Its queue
holds all that was sent, each notice with its sender.

* `Exchange.published_eq_events` — one request publishes its handler's events, or nothing.
* `run_published` — a run publishes what its requests publish, one after another.
* `run_publishes_events` — both together, for every run from an empty queue.

A notice in the queue is marked with its sender, so what modules send on their own account can be
told from the events of requests. The induction over a run goes from its front: a turn leaves
modules and a queue, and the rest of the run is one from there.
-/

namespace Switchyard.Route

/-! ### Routers -/

/-- What comes to a router: requests, and time in which there is none. -/
inductive Turn where
  | request (e : Json)
  /-- Nothing comes for some milliseconds. -/
  | pause (ms : Nat)

/-- Who put a notice in the queue. -/
inductive Sender where
  /-- A request, when it had succeeded. -/
  | request
  /-- A module, on its own account. -/
  | module
  deriving DecidableEq

/-- The modules, and what was put in the notification queue so far, the oldest first. -/
structure Router where
  registry : Registry
  queue : List (Sender × Notice)

namespace Router

/-- A router to which nothing has come. -/
def start (r : Registry) : Router :=
  ⟨r, []⟩

/-- Puts notices in the queue. -/
def put (sender : Sender) (notices : List Notice) (s : Router) : Router :=
  { s with queue := s.queue ++ notices.map (sender, ·) }

/-- One turn. A request puts in the queue what its handler posted on the way and, once it has
succeeded, the events that it raised; a pause puts there what the modules send of themselves. -/
def turn (s : Router) : Turn → Router
  | .request e =>
    let d := dispatch s.registry e
    ({ s with registry := d.registry }.put .module d.posted).put .request d.published
  | .pause ms =>
    let (registry, notices) := s.registry.elapse ms
    { s with registry := registry }.put .module notices

/-- Turns, one after another. -/
def run (s : Router) (turns : List Turn) : Router :=
  turns.foldl turn s

/-- What the requests put in the queue. -/
def published (s : Router) : List Notice :=
  (s.queue.filter (·.1 = .request)).map (·.2)

end Router

/-! ### Exchanges -/

/-- A request, and the modules as it found them. -/
structure Exchange where
  registry : Registry
  request : Json

/-- The requests of a run, in order, each with the modules as the turns before it have left them. -/
def exchanges (r : Registry) : List Turn → List Exchange
  | [] => []
  | .request e :: rest => ⟨r, e⟩ :: exchanges (dispatch r e).registry rest
  | .pause ms :: rest => exchanges (r.elapse ms).1 rest

namespace Exchange

/-- The reply to the request. -/
def reply (x : Exchange) : Envelope :=
  (dispatch x.registry x.request).reply

/-- What the request put in the queue. -/
def published (x : Exchange) : List Notice :=
  (dispatch x.registry x.request).published

/-- What the request is for. -/
def target (x : Exchange) : Option (Module × Action) :=
  x.registry.resolve (echoed x.request "module") (echoed x.request "action")

/-- The events that the handler raised, as notifications of its module, if the action is declared a
mutating one and the reply carries a payload. -/
def events (x : Exchange) : List Notice :=
  match x.target with
  | some (m, a) =>
    if a.mutating ∧ x.reply.data.isSome then
      (m.handling a x.request).raised.map fun event =>
        .notify ⟨m.name, event.1, .notification, event.2, none⟩
    else []
  | none => []

/-- A request publishes the events of its handler, or nothing.

The cases are those of the dispatch: either some stage fails the request, and then its reply has no
payload and there are no events to compare with; or the handler answers, and what is left is whether
the action is a mutating one. -/
theorem published_eq_events (x : Exchange) : x.published = x.events := by
  -- A reply without a payload is the reply to a failed request.
  rcases fails_or_answers x.registry x.request with ⟨w, hw⟩ | ⟨v, m, a, hacc, hout, hreply⟩
  · obtain ⟨hr, hp⟩ := dispatch_of_fails hw
    have hdata : x.reply.data = none := by
      unfold reply
      rw [hr]
      rfl
    have hevents : x.events = [] := by
      unfold events
      rw [hdata]
      cases x.target <;> simp
    rw [hevents]
    exact hp
  · have hd := dispatch_of_answers hacc hout hreply
    have hdata : x.reply.data = some v := by
      unfold reply
      rw [hd]
      rfl
    have htarget : x.target = some (m, a) := hacc.route
    unfold published events
    rw [hd, htarget, hdata]
    cases hmut : a.mutating with
    | false => simp [hmut]
    | true =>
        simp only [hmut, if_true, Option.isSome_some, and_self]
        rfl

/-- A failed request publishes nothing. -/
theorem published_of_errors (x : Exchange) (h : x.reply.errors.isSome = true) :
    x.published = [] := by
  rcases fails_or_answers x.registry x.request with ⟨w, hw⟩ | ⟨v, hv⟩
  · exact (dispatch_of_fails hw).2
  · unfold reply at h
    rw [reply_of_answers hv] at h
    cases h

/-- A request for an action that changes nothing publishes nothing. -/
theorem published_of_not_mutating (x : Exchange)
    (h : ∀ m a, x.target = some (m, a) → a.mutating = false) : x.published = [] := by
  rw [published_eq_events]
  unfold events
  cases htarget : x.target with
  | none => rfl
  | some found =>
      obtain ⟨m, a⟩ := found
      simp [h m a htarget]

end Exchange

/-! ### Runs -/

namespace Router

theorem published_put_request (notices : List Notice) (s : Router) :
    (s.put .request notices).published = s.published ++ notices := by
  have hall : (notices.map (Sender.request, ·)).filter (·.1 = .request) =
      notices.map (Sender.request, ·) := by
    rw [List.filter_eq_self]
    simp
  have hback : (notices.map (Sender.request, ·)).map (·.2) = notices := by
    rw [List.map_map]
    exact List.map_id notices
  unfold published put
  rw [List.filter_append, List.map_append, hall, hback]

theorem published_put_module (notices : List Notice) (s : Router) :
    (s.put .module notices).published = s.published := by
  have hnone : (notices.map (Sender.module, ·)).filter (·.1 = .request) = [] := by
    rw [List.filter_eq_nil_iff]
    simp
  unfold published put
  rw [List.filter_append, List.map_append, hnone, List.map_nil, List.append_nil]

theorem published_request (s : Router) (e : Json) :
    (s.turn (.request e)).published = s.published ++ (dispatch s.registry e).published := by
  unfold turn
  rw [published_put_request, published_put_module]
  rfl

theorem published_pause (s : Router) (ms : Nat) :
    (s.turn (.pause ms)).published = s.published := by
  unfold turn
  rw [published_put_module]
  rfl

/-- A run adds to what was published what its requests publish, in their order. By induction on the
turns; the state is generalized, because the rest of a run starts from what its first turn leaves.
-/
theorem run_published (s : Router) (turns : List Turn) :
    (s.run turns).published =
      s.published ++ (exchanges s.registry turns).flatMap Exchange.published := by
  induction turns generalizing s with
  | nil => simp [run, exchanges]
  | cons t rest ih =>
      -- The rest of the run starts from the modules as this turn leaves them.
      have hrun : s.run (t :: rest) = (s.turn t).run rest := rfl
      rw [hrun, ih]
      cases t with
      | request e =>
          rw [published_request, List.append_assoc]
          rfl
      | pause ms =>
          rw [published_pause]
          rfl

theorem run_append (s : Router) (turns later : List Turn) :
    s.run (turns ++ later) = (s.run turns).run later :=
  List.foldl_append

/-- **Requests publish the events of their successful changes, and nothing else.** What the requests
of a run put in the queue are the events of the exchanges whose action is a mutating one and whose
reply carries a payload, one exchange after another and each in the order in which they were
raised. A failed request and one that changes nothing publish nothing, and what a later part of the
run publishes depends on the modules it finds only: no event is kept for it. -/
theorem run_publishes_events (r : Registry) (turns later : List Turn) :
    ((start r).run turns).published = (exchanges r turns).flatMap Exchange.events ∧
    (∀ x ∈ exchanges r turns,
      (x.reply.errors.isSome = true ∨
        ∀ m a, x.target = some (m, a) → a.mutating = false) → x.published = []) ∧
    ((start r).run (turns ++ later)).published =
      ((start r).run turns).published ++
        ((start ((start r).run turns).registry).run later).published := by
  refine ⟨?_, ?_, ?_⟩
  · have hev : Exchange.published = Exchange.events := funext Exchange.published_eq_events
    rw [run_published, hev]
    rfl
  · rintro x - (h | h)
    · exact x.published_of_errors h
    · exact x.published_of_not_mutating h
  · rw [run_append, run_published, run_published (start _) later]
    rfl

end Router
end Switchyard.Route
