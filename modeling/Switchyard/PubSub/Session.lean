import Switchyard.Notify.Failure
import Switchyard.PubSub.Request

/-!
# The session with the broker

What the daemon wants of the broker waits in a queue of a fixed size; a request that finds it full
is dropped, and so is one that no broker would take. Whenever the broker has accepted the
connection, the session asks for the requests of every module (`connected`). A publication that is a
request is answered on the topic it names, any other changes nothing (`receive`). Replies are
published at least once, notifications at most once, and none of them is kept by the broker.
-/

namespace Switchyard.PubSub

open Route

/-- How often a message arrives. -/
inductive Quality where
  | atMostOnce
  | atLeastOnce
  deriving DecidableEq

/-- The number of a quality on the wire. -/
def Quality.code : Quality → Nat
  | atMostOnce => 0
  | atLeastOnce => 1

/-- What is asked of the broker. -/
inductive Asked where
  | subscribe (filter : String) (quality : Quality)
  | publish (topic : String) (payload : Octets) (quality : Quality)
  | disconnect
  deriving DecidableEq

/-- How many requests may wait. -/
def capacity : Nat := 64

/-- The requests that wait for the connection, the oldest first. -/
abbrev Outbox := List Asked

/-- Puts a request in the queue, if there is room. -/
def Outbox.offer (a : Asked) (o : Outbox) : Bool × Outbox :=
  if o.length < capacity then (true, o ++ [a]) else (false, o)

/-! ### Well-formed requests -/

/-- Whether a level holds a wildcard. -/
def isWild (level : List Char) : Bool :=
  level.contains '+' || level.contains '#'

/-- Whether something can be published on a topic: wildcards stand in filters only. -/
def isTopic (topic : String) : Bool :=
  !isWild topic.toList

/-- Whether wildcards stand where they may: `+` is a level of its own, `#` is the last level. -/
def filterLevels : List (List Char) → Bool
  | [] => true
  | [last] => !isWild last || last = ['+'] || last = ['#']
  | level :: rest => (!isWild level || level = ['+']) && filterLevels rest

/-- Whether a filter can be subscribed to. -/
def isFilter (filter : String) : Bool :=
  filter ≠ "" && filterLevels (levels filter.toList)

/-- Whether a broker would take the request. -/
def Asked.isSound : Asked → Bool
  | .subscribe filter _ => isFilter filter
  | .publish topic _ _ => isTopic topic
  | .disconnect => true

/-- Puts a request in the queue, if it is sound and there is room. -/
def Outbox.ask (a : Asked) (o : Outbox) : Bool × Outbox :=
  if a.isSound then o.offer a else (false, o)

/-! ### The session -/

/-- The id of the client. -/
def clientId (controller : String) : String :=
  "cfgbusd-" ++ controller

/-- Seconds between two signs of life. -/
def keepAlive : Nat := 30

/-- The requests that a new connection starts with: one subscription for each module. -/
def subscriptions (r : Registry) (t : Topics) : List Asked :=
  r.names.map fun m => .subscribe (t.requestFilter m) .atLeastOnce

/-- What happens when the broker has accepted the connection. -/
def connected (r : Registry) (t : Topics) (o : Outbox) : Outbox :=
  (subscriptions r t).foldl (fun o a => (o.ask a).2) o

/-- The publication that announces a notification. -/
def announcement (t : Topics) (e : Envelope) : Asked :=
  .publish (t.notification e.module e.action) e.octets .atMostOnce

/-- The publication that carries a reply. -/
def replyTo (topic : String) (e : Envelope) : Asked :=
  .publish topic e.octets .atLeastOnce

/-- The daemon after a publication has arrived. -/
structure Received where
  registry : Registry
  outbox : Outbox
  /-- What was sent to the notification queue. -/
  notices : List Notice
  /-- Milliseconds the handler took. -/
  duration : Nat

/-- Takes a publication: a request is answered, if its reply can be sent. -/
def receive (r : Registry) (t : Topics) (topic : String) (payload : Octets) (o : Outbox) :
    Received :=
  match handlePublish r t topic payload with
  | none => ⟨r, o, [], 0⟩
  | some p => ⟨p.registry, (o.ask (replyTo p.topic p.reply)).2, p.notices, p.duration⟩

/-- Queues the announcement of a notification. This fails if the queue is full, and if a name in the
topic holds a wildcard. -/
def notify (t : Topics) (e : Envelope) (o : Outbox) : Except Notify.Error Unit × Outbox :=
  let (queued, o) := o.ask (announcement t e)
  (if queued then .ok () else .error .publish, o)

end Switchyard.PubSub
