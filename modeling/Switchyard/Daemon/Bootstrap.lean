import Switchyard.Modules.Builtin
import Switchyard.Settings.Load

/-!
# Making the daemon ready

The settings are loaded, the directories of the sockets are made if the request socket is used, and
the allowed modules are registered. Whoever watches the daemon is told before and after.
-/

namespace Switchyard.Daemon

open Route Settings

/-- What is told to whoever watches the daemon. -/
inductive HealthEvent where
  | starting
  | ready
  | failed (message : String)
  /-- Requests are taken from a bus, for so many modules. -/
  | listening (bus : BusKind) (modules : Nat)
  | stopped (bus : BusKind)
  deriving DecidableEq

/-- Why the daemon could not be made ready. -/
inductive BootstrapError where
  | settings (e : Settings.LoadError)
  | socket (e : Settings.Endpoint.PrepareError)

/-- The error in words. -/
def BootstrapError.message : BootstrapError → String
  | settings e => "failed to load configuration: " ++ e.message
  | socket e => "failed to prepare daemon socket: " ++ e.message

/-- A daemon that can be launched. -/
structure Ready where
  settings : Settings
  registry : Registry

/-- Makes the directories for endpoints, up to the first failure. -/
def prepareAll : List Endpoint → Files.Tree → Except Endpoint.PrepareError Unit × Files.Tree
  | [], t => (.ok (), t)
  | e :: rest, t =>
    match e.prepare t with
    | (.ok (), t) => prepareAll rest t
    | (.error e, t) => (.error e, t)

/-- The sockets whose directories a bus needs. -/
def sockets (s : Settings) : List Endpoint :=
  match s.bus with
  | .unixSocket => [s.daemonSocket, s.notificationSocket]
  | .ubus | .mqtt => []

/-- The modules that settings allow. -/
def registry (modules : Settings → List Module) (s : Settings) : Registry :=
  .build s.allowedModules (modules s)

/-- Makes a daemon ready. -/
def prepare (loaded : Except LoadError Settings) (modules : Settings → List Module)
    (t : Files.Tree) : Except BootstrapError Ready × Files.Tree :=
  match loaded with
  | .error e => (.error (.settings e), t)
  | .ok s =>
    match prepareAll (sockets s) t with
    | (.error e, t) => (.error (.socket e), t)
    | (.ok (), t) => (.ok ⟨s, registry modules s⟩, t)

/-- What is told about making a daemon ready. -/
def bootstrapEvents {α : Type _} : Except BootstrapError α → List HealthEvent
  | .ok _ => [.starting, .ready]
  | .error e => [.starting, .failed e.message]

end Switchyard.Daemon
