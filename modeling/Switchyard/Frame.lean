import Switchyard.Stream.Source
import Switchyard.Stream.Sink

/-!
# Frames

On a socket every message is a frame: four bytes with the length of the payload, least significant
first, then the payload.

* `encode` is the frame of a payload, `write` sends it.
* `read` takes one frame from a source. A stream that ends before the first byte of a frame ends
  cleanly; one that ends later is truncated. A length above the limit is refused before any of the
  payload is read.
-/

namespace Switchyard.Frame

/-- The largest payload that is accepted unless a caller asks otherwise. -/
def maxPayload : Nat := 64 * 1024 * 1024

/-- The bytes of the length. -/
def headerSize : Nat := 4

/-- Why a frame cannot be read or written. -/
inductive Error where
  /-- The payload is longer than the limit. -/
  | tooLarge (size limit : Nat)
  /-- The stream ended after `received` bytes of a part of `expected`. -/
  | truncated (received expected : Nat)
  /-- The stream failed. -/
  | stream (e : IoError)
  deriving DecidableEq

/-- The error in words. -/
def Error.message : Error → String
  | tooLarge size limit =>
    "frame of " ++ toString size ++ " bytes exceeds the " ++ toString limit ++ " byte limit"
  | truncated received expected =>
    "stream closed after " ++ toString received ++ " of " ++ toString expected ++ " bytes"
  | stream e => "frame I/O failed: " ++ e.message

/-- The error below this one, in words. -/
def Error.causes : Error → List String
  | stream e => [e.message]
  | _ => []

/-- The length in front of a payload. -/
def header (payload : Octets) : Octets :=
  Octets.littleEndian headerSize payload.length

/-- The frame of a payload, which must be shorter than `2 ^ 32` bytes. -/
def encode (payload : Octets) : Octets :=
  header payload ++ payload

/-- Sends a frame and flushes the sink. -/
def write (payload : Octets) (sink : Stream.Sink) : Except Error Unit × Stream.Sink :=
  if 0x100000000 ≤ payload.length then (.error (.tooLarge payload.length 0xffffffff), sink)
  else
    match sink.writeAll (header payload) with
    | (.error e, sink) => (.error (.stream e), sink)
    | (.ok (), sink) =>
      match sink.writeAll payload with
      | (.error e, sink) => (.error (.stream e), sink)
      | (.ok (), sink) =>
        match sink.flush with
        | .error e => (.error (.stream e), sink)
        | .ok () => (.ok (), sink)

/-- Takes one frame of at most `limit` bytes from a source; `none` when the stream ends cleanly. -/
def read (limit : Nat) (source : Stream.Source) : Except Error (Option Octets × Stream.Source) :=
  match Stream.readFull headerSize source with
  | .error e => .error (.stream e)
  | .ok ([], rest) => .ok (none, rest)
  | .ok (start, rest) =>
    if start.length < headerSize then .error (.truncated start.length headerSize)
    else
      let size := Octets.ofLittleEndian start
      if limit < size then .error (.tooLarge size limit)
      else
        match Stream.readFull size rest with
        | .error e => .error (.stream e)
        | .ok (payload, rest) =>
          if payload.length < size then .error (.truncated payload.length size)
          else .ok (some payload, rest)

/-- The payloads of all frames up to the end of the stream, or up to the error that is given. Each
frame takes at least its length from the source, which the fuel counts. -/
def readFrames (limit : Nat) : (fuel : Nat) → Stream.Source → List Octets × Option Error
  | 0, _ => ([], none)
  | fuel + 1, source =>
    match read limit source with
    | .error e => ([], some e)
    | .ok (none, _) => ([], none)
    | .ok (some payload, rest) =>
      let (payloads, e) := readFrames limit fuel rest
      (payload :: payloads, e)

/-- The payloads of all frames of a source. -/
def readAll (limit : Nat) (source : Stream.Source) : List Octets × Option Error :=
  readFrames limit (Stream.pendingBytes source + 1) source

end Switchyard.Frame
