import Switchyard.Bus.Worker

/-!
# Rehearsing the object bus

The bus's side of a worker: it gives numbers to the objects in the order of their registration,
sends one call after another, and reads what the worker answers.

It stands for the peer of a worker. The worker itself is that of the daemon.
-/

namespace Switchyard.Rehearsal

open Bus Route

/-- The number of the first object. -/
def firstObject : Nat := 100

/-- The number of the client that all calls come from. -/
def caller : UInt32 := 99

/-- The bus's answer to one registration: a number, or a status other than zero. -/
def registration (place : Nat) (status : UInt32) : List Reading :=
  let seq := UInt16.ofNat (place + 1)
  let number := UInt32.ofNat (firstObject + place)
  let object := Reading.message (.of .data seq 0 [.word objectId number])
  (if status = 0 then [object] else []) ++ [.message (.of .status seq 0 [.word statusId status])]

/-- A worker that has registered its objects, as far as the statuses allow. -/
def startWorker (r : Registry) (statuses : List UInt32) : Except Error Unit × Worker :=
  let answers := (List.range r.length).flatMap fun i => registration i (statuses.getD i 0)
  Worker.start r ⟨1, 0, [], answers, []⟩

/-- The paths of the objects that a worker tries to register. -/
def registered (r : Registry) (statuses : List UInt32) : List String :=
  let asked := r.names.zipIdx.takeWhile fun (_, i) => (statuses.take i).all (· = 0)
  asked.map fun (m, _) => objectName m

/-- The body of a call. -/
def callItems (object : UInt32) (method : String) (data : Json.Members) : List Item :=
  [.word objectId object, .text methodId method, .nested dataId (Item.fields data)]

/-- What a call led to. -/
structure Called where
  worker : Worker
  status : Option UInt32
  object : Option UInt32
  /-- The texts that the answer carries. -/
  chunks : List String
  /-- Whether everything was sent to the caller under the number of the call. -/
  matched : Bool
  notices : List Notice
  failure : Option Error

/-- The texts that data messages carry. -/
def chunkOf (m : Message) : String :=
  let table := (m.attributes.bind (tableOf dataId)).toOption.getD []
  ((Json.lookup? "data" table).bind Json.string?).getD ""

/-- Sends a call with this body and lets the worker answer it. -/
def callWorker (seq : UInt16) (items : List Item) (w : Worker) : Called :=
  let m := Message.of .invoke seq caller items
  let arrived := readings [.bytes (m.octets.toOption.getD [])] ++ [Reading.idle]
  let p := ({ w with client := { w.client with incoming := arrived, sent := [] } }).step
  let sent := p.worker.client.sent
  let (r, more) := p.worker.registry.elapse p.duration
  let ended := sent.find? (·.kind = .status)
  let word (id : UInt8) := ended.bind fun s => (s.attributes.bind (wordOf id)).toOption
  ⟨{ p.worker with registry := r }, word statusId, word objectId,
    (sent.filter (·.kind = .data)).map chunkOf, sent.all fun s => s.seq = seq && s.peer = caller,
    p.notices ++ more, p.failure⟩

/-- The data of the event that a notification becomes, as it is read from the bus. -/
def eventRead (e : Envelope) : Json.Members :=
  let items := Client.eventItems (objectName e.module) (eventData e)
  let m := Message.of .invoke 1 Client.eventObject items
  (m.attributes.bind (tableOf dataId)).toOption.getD []

/-! ### Several workers -/

/-- The workers that serve a registry. -/
def startWorkers (single : Bool) (r : Registry) : List Worker :=
  (plan single r).map fun part => (startWorker part []).2

/-- The first worker that has an object of this path, its place, and the number of the object. -/
def findWorker? (path : String) (workers : List Worker) : Option (Worker × Nat × UInt32) :=
  workers.zipIdx.findSome? fun (w, i) =>
    (w.objects.find? fun (_, m) => objectName m = path).map fun (object, _) => (w, i, object)

end Switchyard.Rehearsal
