import Switchyard.Route.Action

/-!
# Modules and the registry

* A `Module` is a name, a list of actions, a private state and a handler over it. Its state may
  also move on by itself while time passes (supervised commands run and end).
* A handler answers with the new state, an outcome, the events it raised and the notices it posted.
  Raised events wait for the outcome of the request, posted notices are sent at once.
* A `Registry` is a list of modules in strictly increasing order of their names.
-/

namespace Switchyard.Route

/-- A message to the notification queue. -/
inductive Notice where
  /-- Broadcast an envelope. -/
  | notify (e : Envelope)
  /-- Reopen the connection to the subscribers. -/
  | reset

/-- An event of a module and its payload. -/
abbrev Event := String × Option Json

/-- The notice that broadcasts an event of a module. -/
def Notice.ofEvent (module : String) (event : Event) : Notice :=
  .notify (.notification module event.1 event.2)

/-- How a handler ended. -/
inductive Outcome where
  | returned (value : Json)
  | failed (e : HandlerError)
  | crashed (message trace : String)

/-- A handler's answer. -/
structure Handling (σ : Type) where
  state : σ
  outcome : Outcome
  /-- Events to broadcast if the request succeeds. -/
  raised : List Event
  /-- Notices that were sent while the handler ran. -/
  posted : List Notice
  /-- Milliseconds the handler took. -/
  duration : Nat

/-- A feature with a fixed set of actions. -/
structure Module where
  name : String
  actions : List Action
  State : Type
  state : State
  /-- Handles the action of a request that was checked. -/
  handle : String → Option Json → State → Handling State
  /-- What happens by itself during some milliseconds. -/
  elapse : Nat → State → State × List Notice

namespace Module

/-- A module that does nothing by itself. -/
def passive (name : String) (actions : List Action) {σ : Type} (state : σ)
    (handle : String → Option Json → σ → Handling σ) : Module :=
  ⟨name, actions, σ, state, handle, fun _ s => (s, [])⟩

/-- The declaration of an action. -/
def action? (m : Module) (name : String) : Option Action :=
  m.actions.find? (·.name = name)

end Module

/-- The registered modules, in strictly increasing order of their names. -/
abbrev Registry := List Module

namespace Registry

/-- Adds a module, in place of one with the same name. -/
def register (m : Module) : Registry → Registry
  | [] => [m]
  | n :: rest =>
    if m.name < n.name then m :: n :: rest
    else if m.name = n.name then m :: rest
    else n :: register m rest

/-- The module of a name. -/
def find? (r : Registry) (name : String) : Option Module :=
  List.find? (·.name = name) r

/-- The module and the action that a route names. -/
def resolve (r : Registry) (module action : String) : Option (Module × Action) :=
  (r.find? module).bind fun m => (m.action? action).map fun a => (m, a)

/-- The names of all modules, in order. -/
def names (r : Registry) : List String :=
  r.map (·.name)

/-- The names of a module's actions; none when it is not registered. -/
def actionNames (r : Registry) (module : String) : List String :=
  match r.find? module with
  | some m => m.actions.map (·.name)
  | none => []

/-- The registry with only one module. -/
def only (r : Registry) (name : String) : Registry :=
  r.filter (·.name = name)

/-- Registers those modules, one after another, that the allow-list names; an empty list allows
all. -/
def build (allowed : List String) (modules : List Module) : Registry :=
  (modules.filter fun m => allowed.isEmpty || allowed.contains m.name).foldl
    (fun r m => r.register m) []

/-- Lets time pass in every module. -/
def elapse (ms : Nat) (r : Registry) : Registry × List Notice :=
  let moved := r.map fun m =>
    let (state, notices) := m.elapse ms m.state
    (({ m with state := state } : Module), notices)
  (moved.map (·.1), moved.flatMap (·.2))

end Registry
end Switchyard.Route
