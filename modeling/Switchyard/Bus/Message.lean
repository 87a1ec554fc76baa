import Switchyard.Bus.Item
import Switchyard.Stream.Sink
import Switchyard.Stream.Source

/-!
# Messages on the object bus

A message is a header of twelve bytes (a version, the kind, a sequence number, a peer, and the
length of the body with the four bytes of the length itself) and a body of attributes.

* `Message.octets` writes a message; it refuses only a body too long for the length.
* `Message.read` takes one message from a source. A timeout before the first byte is an idle
  moment; inside a message timeouts and interruptions are waited out, and the end of the stream is
  an error wherever it comes.
* `readings` is all that a client can read from a source, one message or failure after another.
-/

namespace Switchyard.Bus

/-- What a message is about. -/
inductive Kind where
  /-- The greeting of the bus. -/
  | hello
  /-- The end of an answer. -/
  | status
  /-- A part of an answer. -/
  | data
  | ping
  /-- A call of a method. -/
  | invoke
  /-- The registration of an object. -/
  | addObject
  /-- Any other code. -/
  | other (code : UInt8)
  deriving DecidableEq

namespace Kind

/-- The code of a kind. -/
def code : Kind → UInt8
  | hello => 0
  | status => 1
  | data => 2
  | ping => 3
  | invoke => 5
  | addObject => 6
  | other code => code

/-- The kind of a code. -/
def ofCode (code : UInt8) : Kind :=
  (([hello, status, data, ping, invoke, addObject].find? (·.code = code))).getD (other code)

end Kind

/-! ### Attributes of a message -/

/-- The status at the end of an answer. -/
def statusId : UInt8 := 1
/-- The path of an object. -/
def pathId : UInt8 := 2
/-- The number of an object. -/
def objectId : UInt8 := 3
/-- The name of a method. -/
def methodId : UInt8 := 4
/-- The methods of an object with their parameters. -/
def signatureId : UInt8 := 6
/-- The parameters or the results of a call. -/
def dataId : UInt8 := 7

/-- A message with its body as it stands on the wire. -/
structure Message where
  kind : Kind
  /-- What pairs an answer with its request. -/
  seq : UInt16
  peer : UInt32
  body : Octets
  deriving DecidableEq

namespace Message

/-- A message with these items in its body. -/
def of (kind : Kind) (seq : UInt16) (peer : UInt32) (items : List Item) : Message :=
  ⟨kind, seq, peer, Item.body items⟩

/-- The message with its kind as a reader names it. -/
def normal (m : Message) : Message :=
  { m with kind := .ofCode m.kind.code }

/-! ### Writing -/

/-- The length in the header: the body with the length itself. -/
def containerLength (m : Message) : Nat :=
  wordSize + m.body.length

/-- The bytes of the header. -/
def headerSize : Nat := 12

/-- The header. -/
def header (m : Message) : Octets :=
  0 :: m.kind.code ::
    (Octets.bigEndian 2 m.seq.toNat ++ Octets.bigEndian 4 m.peer.toNat ++
      Octets.bigEndian 4 m.containerLength)

/-- The bytes of a message. -/
def octets (m : Message) : Except Error Octets :=
  if m.containerLength < 0x100000000 then .ok (m.header ++ m.body)
  else .error (.malformed .messageSize)

/-- Sends a message. -/
def write (m : Message) (sink : Stream.Sink) : Except Error Unit × Stream.Sink :=
  match m.octets with
  | .error e => (.error e, sink)
  | .ok s =>
    match sink.writeAll s with
    | (.error e, sink) => (.error (.io e), sink)
    | (.ok (), sink) =>
      match sink.flush with
      | .error e => (.error (.io e), sink)
      | .ok () => (.ok (), sink)

/-! ### Reading -/

/-- The largest length in a header that is accepted. -/
def maxLength : Nat := 1024 * 1024

/-- Reads exactly `n` bytes. While `idleAllowed` holds and no byte has come, a timeout ends the
read; any other timeout and every interruption is waited out. -/
def fill (idleAllowed : Bool) (n : Nat) :
    Stream.Source → Except Error (Option Octets) × Stream.Source
  | [] => if n = 0 then (.ok (some []), []) else (.error .closed, [])
  | arrival :: rest =>
    if n = 0 then (.ok (some []), arrival :: rest)
    else
      match arrival with
      | .failure .interrupted => fill idleAllowed n rest
      | .failure .timedOut | .failure .wouldBlock =>
        if idleAllowed then (.ok none, rest) else fill idleAllowed n rest
      | .failure e => (.error (.io e), rest)
      | .bytes s =>
        let got := s.take n
        if got.isEmpty then (.error .closed, rest)
        else if got.length < n then
          match fill false (n - got.length) rest with
          | (.ok more, rest) => (.ok (some (got ++ more.getD [])), rest)
          | (.error e, rest) => (.error e, rest)
        else
          let left := s.drop n
          (.ok (some got), if left.isEmpty then rest else .bytes left :: rest)

/-- The message of a header, without its body, and the length of the body. -/
def ofHeader (header : Octets) : Except Error (Message × Nat) :=
  match header with
  | [_, kind, s1, s0, p3, p2, p1, p0, l3, l2, l1, l0] =>
    let length := Octets.ofBigEndian [l3, l2, l1, l0] % 0x1000000
    if wordSize ≤ length ∧ length ≤ maxLength then
      .ok (⟨.ofCode kind, UInt16.ofNat (Octets.ofBigEndian [s1, s0]),
        UInt32.ofNat (Octets.ofBigEndian [p3, p2, p1, p0]), []⟩, length - wordSize)
    else .error (.malformed .messageLength)
  | _ => .error .closed

/-- Takes one message from a source; none in an idle moment. -/
def read (source : Stream.Source) : Except Error (Option Message) × Stream.Source :=
  match fill true headerSize source with
  | (.error e, rest) => (.error e, rest)
  | (.ok none, rest) => (.ok none, rest)
  | (.ok (some header), rest) =>
    match ofHeader header with
    | .error e => (.error e, rest)
    | .ok (m, length) =>
      match fill false length rest with
      | (.error e, rest) => (.error e, rest)
      | (.ok body, rest) => (.ok (some { m with body := body.getD [] }), rest)

/-! ### Attributes -/

/-- The attributes of the body. -/
def attributes (m : Message) : Except Error (List Attribute) :=
  Attribute.parseAll m.body

end Message

/-- The number in the first attribute of an id. -/
def wordOf (id : UInt8) (attributes : List Attribute) : Except Error UInt32 :=
  match Attribute.find? id attributes with
  | none => .error (.missing id)
  | some a => (leadingNumber 4 a.payload).map UInt32.ofNat

/-- The text in the first attribute of an id. -/
def textOf (id : UInt8) (attributes : List Attribute) : Except Error String :=
  match Attribute.find? id attributes with
  | none => .error (.missing id)
  | some a => readText a.payload

/-- The table in the first attribute of an id; one that is absent is empty. -/
def tableOf (id : UInt8) (attributes : List Attribute) : Except Error Json.Members :=
  match Attribute.find? id attributes with
  | none => .ok []
  | some a => readTable a.payload

/-! ### Everything a source holds -/

/-- What one attempt to read a message gives. -/
inductive Reading where
  | message (m : Message)
  /-- No byte came in time. -/
  | idle
  | failed (e : Error)

/-- Reads from a source at most `fuel` times. -/
def readingsWithin : (fuel : Nat) → Stream.Source → List Reading
  | 0, _ => []
  | fuel + 1, source =>
    if source.isEmpty then []
    else
      match Message.read source with
      | (.ok (some m), rest) => .message m :: readingsWithin fuel rest
      | (.ok none, rest) => .idle :: readingsWithin fuel rest
      | (.error e, rest) => .failed e :: readingsWithin fuel rest

/-- All that can be read from a source before its end. Each attempt takes an arrival or some
bytes, which the fuel counts. -/
def readings (source : Stream.Source) : List Reading :=
  readingsWithin (source.length + Stream.pendingBytes source) source

end Switchyard.Bus
