import Switchyard.Bus.Client
import Switchyard.Envelope

/-!
# Notifications as bus events

A notification is broadcast as an event named for its module, with the action and the payload as
data. Events go over a connection of their own, which is opened when it is first needed and given
up after any failure.
-/

namespace Switchyard.Bus

/-- What the name of every object and event begins with. -/
def namePrefix : String := "cfgbus-"

/-- The object that serves a module, and the name of its events. -/
def objectName (module : String) : String :=
  namePrefix ++ module

/-- The data of the event for a notification. -/
def eventData (e : Envelope) : Json :=
  .ofMembers (("action", .string e.action) :: (e.data.map fun d => ("data", d)).toList)

/-- The connection that events go over. -/
structure Notifier where
  /-- The socket of the bus. -/
  path : String
  client : Option Client

namespace Notifier

/-- The client to use: the one there is, or a new one on what the socket of the bus gives. -/
def connected (dial : Except IoError (List Reading)) (n : Notifier) : Except Error Client :=
  match n.client with
  | some c => .ok c
  | none =>
    match dial with
    | .error e => .error (.connect n.path e)
    | .ok incoming => Client.connect incoming

/-- Broadcasts a notification. Also gives the client after it, so that what was sent can be told
even when it failed; none if there was no connection. -/
def notify (e : Envelope) (dial : Except IoError (List Reading)) (n : Notifier) :
    Except Error Unit × Option Client × Notifier :=
  match n.connected dial with
  | .error e => (.error e, none, { n with client := none })
  | .ok c =>
    match c.sendEvent (objectName e.module) (eventData e) with
    | (.error e, c) => (.error e, some c, { n with client := none })
    | (.ok (), c) => (.ok (), some c, { n with client := some c })

/-- Gives up the connection. -/
def reset (n : Notifier) : Notifier :=
  { n with client := none }

end Notifier
end Switchyard.Bus
