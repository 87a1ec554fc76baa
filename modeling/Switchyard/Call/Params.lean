import Switchyard.Json.Decoder

/-!
# Parameters of an object call

A call on a bus object carries either a payload, or one chunk of a payload that is submitted over
several calls under a request id.
-/

namespace Switchyard.Call

/-- The parameters of one call. -/
structure Params where
  /-- The payload of a plain call. -/
  data : Option Json
  /-- Whether this chunk is the last one. -/
  last : Bool
  /-- Whether the call carries a chunk. -/
  multipart : Bool
  /-- The id that chunks of one payload share. -/
  requestId : Option String
  /-- The chunk. -/
  chunk : Option String

namespace Params

/-- A plain call without payload. -/
def empty : Params :=
  ⟨none, false, false, none, none⟩

/-- The payload of a plain call; an empty object counts as absent. -/
def payload (p : Params) : Option Json :=
  match p.data with
  | some (.object []) => none
  | data => data

/-- The members of the parameters, in wire order; absent ones are left out. -/
def members (p : Params) : Json.Members :=
  (p.data.map fun d => ("data", d)).toList ++
  [("final", .bool p.last), ("multipart", .bool p.multipart)] ++
  (p.requestId.map fun s => ("request_id", .string s)).toList ++
  (p.chunk.map fun s => ("multipart_data", .string s)).toList

/-- The text of the parameters. -/
def encode (p : Params) : String :=
  (Json.object p.members).render

/-- The record type as it is read; no field is required. -/
def shape : Json.Decoder.Record Params where
  name := "MultipartParams"
  start := empty
  fields :=
    [.of "data" false (.option .any) fun d p => { p with data := d },
     .of "final" false .bool fun b p => { p with last := b },
     .of "multipart" false .bool fun b p => { p with multipart := b },
     .of "request_id" false (.option .string) fun s p => { p with requestId := s },
     .of "multipart_data" false (.option .string) fun s p => { p with chunk := s }]

/-- Reads parameters. -/
def decoder : Json.Decoder Params :=
  .record shape

end Params
end Switchyard.Call
