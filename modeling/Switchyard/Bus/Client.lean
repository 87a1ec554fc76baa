import Switchyard.Bus.Message

/-!
# Clients of the object bus

A client registers objects, sends events and answers calls over one connection. Messages of several
conversations share that connection.

* A request reads until its own answer ends and keeps every other message in a backlog.
* `poll` looks at the backlog before it reads: calls are returned one by one, pings are answered,
  calls that cannot be read are rejected, and everything else is passed over.
* A client writes whole messages only; `sent` lists them.
-/

namespace Switchyard.Bus

/-- A method call. -/
structure Invocation where
  seq : UInt16
  peer : UInt32
  object : UInt32
  method : String
  data : Json.Members

/-- Reads a message as a call: the number of the object, the method, then the parameters. -/
def Invocation.ofMessage (m : Message) : Except Error Invocation :=
  match m.attributes with
  | .error e => .error e
  | .ok attributes =>
    match wordOf objectId attributes with
    | .error e => .error e
    | .ok object =>
      match textOf methodId attributes with
      | .error e => .error e
      | .ok method =>
        match tableOf dataId attributes with
        | .error e => .error e
        | .ok data => .ok ⟨m.seq, m.peer, object, method, data⟩

/-- A connection to the bus. -/
structure Client where
  /-- The number that the bus gave this client. -/
  peer : UInt32
  /-- The sequence number of the latest request. -/
  seq : UInt16
  /-- Messages that were read while a request waited for its answer. -/
  backlog : List Message
  /-- What is still to be read; after it the connection is closed. -/
  incoming : List Reading
  /-- All messages written so far. -/
  sent : List Message

namespace Client

/-- Waits for the greeting of the bus. -/
def connect : List Reading → Except Error Client
  | [] => .error .closed
  | .idle :: _ => .error .timeout
  | .failed e :: _ => .error e
  | .message m :: rest =>
    if m.kind = .hello then .ok ⟨m.peer, 0, [], rest, []⟩ else .error .noHello

/-- Writes messages. -/
def send (messages : List Message) (c : Client) : Client :=
  { c with sent := c.sent ++ messages }

/-! ### Requests -/

/-- What became of waiting for an answer. -/
structure Answer where
  /-- The parts of the answer, if it ended with status 0. -/
  parts : Except Error (List Message)
  /-- All messages that did not belong to it, after those kept before. -/
  kept : List Message
  /-- What was not read. -/
  rest : List Reading

/-- Whether a message belongs to the answer of a request. -/
def answers (seq : UInt16) (m : Message) : Bool :=
  m.seq = seq ∧ (m.kind = .data ∨ m.kind = .status)

/-- What the end of an answer gives. -/
def conclude (parts : List Message) (status : Message) : Except Error (List Message) :=
  match status.attributes with
  | .error e => .error e
  | .ok attributes =>
    match wordOf statusId attributes with
    | .error e => .error e
    | .ok code => if code = 0 then .ok parts else .error (.status code)

/-- Reads up to the end of the answer to a request, or to an idle moment or a failure. -/
def collect (seq : UInt16) (parts kept : List Message) : List Reading → Answer
  | [] => ⟨.error .closed, kept, []⟩
  | .idle :: rest => ⟨.error .timeout, kept, rest⟩
  | .failed e :: rest => ⟨.error e, kept, rest⟩
  | .message m :: rest =>
    if answers seq m then
      if m.kind = .status then ⟨conclude parts m, kept, rest⟩
      else collect seq (parts ++ [m]) kept rest
    else collect seq parts (kept ++ [m]) rest

/-- Sends a request and waits for its answer. -/
def request (kind : Kind) (peer : UInt32) (items : List Item) (c : Client) :
    Except Error (List Message) × Client :=
  let seq := c.seq + 1
  let answer := collect seq [] c.backlog c.incoming
  (answer.parts,
    { c with
      seq := seq, backlog := answer.kept, incoming := answer.rest,
      sent := c.sent ++ [.of kind seq peer items] })

/-- The parameters that every method takes, with their types. -/
def methodParams : List (String × UInt8) :=
  [("data", tableType), ("final", boolType), ("multipart", boolType), ("request_id", textType),
    ("multipart_data", textType)]

/-- The signature of a method. -/
def signature (method : String) : Item :=
  .table method (methodParams.map fun (name, type) => .typeField name type)

/-- The number of the object in the first message that has one. -/
def firstObject? (messages : List Message) : Option UInt32 :=
  messages.findSome? fun m => (m.attributes.toOption).bind fun a => (wordOf objectId a).toOption

/-- Registers an object with its methods; the bus gives its number. -/
def addObject (path : String) (methods : List String) (c : Client) :
    Except Error UInt32 × Client :=
  match c.request .addObject 0 [.text pathId path, .nested signatureId (methods.map signature)] with
  | (.error e, c) => (.error e, c)
  | (.ok parts, c) =>
    match firstObject? parts with
    | some object => (.ok object, c)
    | none => (.error (.missing objectId), c)

/-- The object that broadcasts events. -/
def eventObject : UInt32 := 1

/-- The body of an event. -/
def eventItems (id : String) (data : Json) : List Item :=
  [.word objectId eventObject, .text methodId "send",
    .nested dataId [.field "id" (.string id), .field "data" data]]

/-- Broadcasts an event. -/
def sendEvent (id : String) (data : Json) (c : Client) : Except Error Unit × Client :=
  match c.request .invoke eventObject (eventItems id data) with
  | (.error e, c) => (.error e, c)
  | (.ok _, c) => (.ok (), c)

/-! ### Calls -/

/-- The status of a call that cannot be read. -/
def invalidArgument : UInt32 := 2

/-- The answer to a call that cannot be read. It names the object if that much can be read. -/
def rejection (m : Message) : Message :=
  let object := (m.attributes.toOption).bind fun a => (wordOf objectId a).toOption
  .of .status m.seq m.peer
    (.word statusId invalidArgument :: (object.map (Item.word objectId)).toList)

/-- What a client does with a message outside of requests. -/
inductive Reaction where
  /-- Hand it out. -/
  | call (i : Invocation)
  /-- Answer it. -/
  | answer (m : Message)
  /-- Pass it over. -/
  | skip

/-- The reaction to a message. -/
def react (m : Message) : Reaction :=
  match m.kind with
  | .invoke =>
    match Invocation.ofMessage m with
    | .ok i => .call i
    | .error _ => .answer (rejection m)
  | .ping => .answer (.of .ping m.seq m.peer [])
  | _ => .skip

/-- Reads until there is a call, or up to an idle moment or a failure. -/
def pollIncoming (c : Client) : List Reading → Except Error (Option Invocation) × Client
  | [] => (.error .closed, { c with incoming := [] })
  | .idle :: rest => (.ok none, { c with incoming := rest })
  | .failed e :: rest => (.error e, { c with incoming := rest })
  | .message m :: rest =>
    match react m with
    | .call i => (.ok (some i), { c with incoming := rest })
    | .answer reply => pollIncoming (c.send [reply]) rest
    | .skip => pollIncoming c rest

/-- Looks for a call in the backlog, then in what is read. -/
def pollBacklog (c : Client) : List Message → Except Error (Option Invocation) × Client
  | [] => pollIncoming { c with backlog := [] } c.incoming
  | m :: rest =>
    match react m with
    | .call i => (.ok (some i), { c with backlog := rest })
    | .answer reply => pollBacklog (c.send [reply]) rest
    | .skip => pollBacklog c rest

/-- Waits for the next call; none in an idle moment. -/
def poll (c : Client) : Except Error (Option Invocation) × Client :=
  pollBacklog c c.backlog

/-- The messages that answer a call: one for each payload, and the status. -/
def replyMessages (call : Invocation) (payloads : List Json.Members) (status : UInt32) :
    List Message :=
  payloads.map (fun payload => .of .data call.seq call.peer
    [.word objectId call.object, .nested dataId (Item.fields payload)]) ++
  [.of .status call.seq call.peer [.word statusId status, .word objectId call.object]]

/-- Answers a call. -/
def reply (call : Invocation) (payloads : List Json.Members) (status : UInt32) (c : Client) :
    Client :=
  c.send (replyMessages call payloads status)

end Client
end Switchyard.Bus
