import Switchyard.Json.Decoder

/-!
# Envelopes

Every bus carries the same envelope: a module, an action, a kind, and either a payload or a list of
error records.

* `Envelope.encode` writes the members in their fixed order and leaves absent ones out.
* `Envelope.decoder` reads an envelope back; a payload of `null` counts as absent.
-/

namespace Switchyard

/-- The direction of an envelope. -/
inductive MessageKind where
  /-- A client asks for an action. -/
  | request
  /-- The answer to one request. -/
  | reply
  /-- An event for every subscriber. -/
  | notification
  deriving DecidableEq

namespace MessageKind

/-- The spelling of a kind on every bus. -/
def spelling : MessageKind → String
  | request => "request"
  | reply => "reply"
  | notification => "notification"

/-- All kinds by their spelling. -/
def spellings : List (String × MessageKind) :=
  [request, reply, notification].map fun k => (k.spelling, k)

end MessageKind

/-- One entry of a failed reply. -/
structure ErrorRecord where
  /-- What went wrong, for a person. -/
  description : String
  /-- The details: what a check found, or the chain of causes. -/
  stacktrace : String
  deriving DecidableEq, Inhabited

namespace ErrorRecord

/-- The members of a record, in wire order. -/
def members (e : ErrorRecord) : Json.Members :=
  [("description", .string e.description), ("stacktrace", .string e.stacktrace)]

/-- The record type as it is read. -/
def shape : Json.Decoder.Record ErrorRecord where
  name := "ErrorRecord"
  start := ⟨"", ""⟩
  fields :=
    [.of "description" true .string fun s e => { e with description := s },
     .of "stacktrace" true .string fun s e => { e with stacktrace := s }]

/-- Reads a record. -/
def decoder : Json.Decoder ErrorRecord :=
  .record shape

end ErrorRecord

/-- A message with the module and the action it is about. -/
structure Envelope where
  module : String
  action : String
  kind : MessageKind
  /-- The payload, if there is one. -/
  data : Option Json
  /-- What went wrong, in a failed reply. -/
  errors : Option (List ErrorRecord)

namespace Envelope

/-! ### The envelopes this library builds -/

/-- A request. -/
def request (module action : String) (data : Option Json) : Envelope :=
  ⟨module, action, .request, data, none⟩

/-- A successful reply. -/
def reply (module action : String) (data : Json) : Envelope :=
  ⟨module, action, .reply, some data, none⟩

/-- A failed reply with one record. -/
def errorReply (module action : String) (error : ErrorRecord) : Envelope :=
  ⟨module, action, .reply, none, some [error]⟩

/-- An event broadcast. -/
def notification (module event : String) (data : Option Json) : Envelope :=
  ⟨module, event, .notification, data, none⟩

/-- Whether the envelope is a failed reply. -/
def isError (e : Envelope) : Bool :=
  e.errors.isSome

/-- The first error record. -/
def firstError? (e : Envelope) : Option ErrorRecord :=
  e.errors.bind List.head?

/-! ### Encoding -/

/-- The members of an envelope, in wire order; absent ones are left out. -/
def members (e : Envelope) : Json.Members :=
  [("module", .string e.module), ("action", .string e.action),
    ("kind", .string e.kind.spelling)] ++
  (e.data.map fun d => ("data", d)).toList ++
  (e.errors.map fun es => ("errors", .array (es.map fun r => .object r.members))).toList

/-- The text of an envelope, as every bus carries it. -/
def encode (e : Envelope) : String :=
  (Json.object e.members).render

/-- The bytes of an envelope's text. -/
def octets (e : Envelope) : Octets :=
  Utf8.encode e.encode

/-- The envelope as a value, its members in the order of their keys. -/
def toJson (e : Envelope) : Json :=
  .ofMembers (e.members.map fun (k, v) =>
    if k = "errors" then (k, .array ((e.errors.getD []).map fun r => .ofMembers r.members))
    else (k, v))

/-! ### Decoding -/

/-- The record type as it is read. -/
def shape : Json.Decoder.Record Envelope where
  name := "Envelope"
  start := ⟨"", "", .request, none, none⟩
  fields :=
    [.of "module" true .string fun s e => { e with module := s },
     .of "action" true .string fun s e => { e with action := s },
     .of "kind" true (.choice MessageKind.spellings) fun k e => { e with kind := k },
     .of "data" false (.option .any) fun d e => { e with data := d },
     .of "errors" false (.option (.list ErrorRecord.decoder)) fun es e =>
      { e with errors := es }]

/-- Reads an envelope. -/
def decoder : Json.Decoder Envelope :=
  .record shape

/-- The envelope that a text spells. -/
def parse (s : Octets) : Except Json.Fault Envelope :=
  decoder.parse s

end Envelope

/-! ### The descriptions of failed replies -/

/-- The description of every failure that the caller's message is to blame for. -/
def incorrectInput : String := "Incorrect input."

/-- The description for a message that is no request. -/
def wrongKind : String := "Wrong message kind (only request are allowed)."

/-- The description for a chunked payload that cannot be used. -/
def multipartFailure : String := "failed to parse multipart"

end Switchyard
