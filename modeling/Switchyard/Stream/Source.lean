import Switchyard.Octets
import Switchyard.Stream.Failure

/-!
# Byte sources

What a reader sees of the other side: a sequence of arrivals, then the end of the stream.

* `read` hands out at most as many bytes as are asked for, like one read call; an arrival of no
  bytes looks like the end.
* `readFull` fills a buffer as far as the stream goes. It waits out interruptions and stops at any
  other failure.

How the bytes are cut into arrivals is up to the other side, so a reader's answer must not depend
on it.
-/

namespace Switchyard.Stream

/-- What one read call can meet. -/
inductive Arrival where
  /-- Bytes; none at all looks like the end of the stream. -/
  | bytes (s : Octets)
  /-- A failure of the call. -/
  | failure (e : IoError)

/-- All that is still to arrive before the stream ends. -/
abbrev Source := List Arrival

/-- What a read call gives. -/
inductive Chunk where
  | bytes (s : Octets)
  | ended
  | failure (e : IoError)

/-- One read call for at most `n` bytes. -/
def read (n : Nat) : Source → Chunk × Source
  | [] => (.ended, [])
  | .failure e :: rest => (.failure e, rest)
  | .bytes [] :: rest => (.ended, rest)
  | .bytes s :: rest =>
    let more := s.drop n
    (.bytes (s.take n), if more.isEmpty then rest else .bytes more :: rest)

/-- Reads until `n` bytes are there or the stream ends; the bytes read are fewer than `n` only at
the end. -/
def readFull (n : Nat) : Source → Except IoError (Octets × Source)
  | [] => .ok ([], [])
  | arrival :: rest =>
    if n = 0 then .ok ([], arrival :: rest)
    else
      match arrival with
      | .failure .interrupted => readFull n rest
      | .failure e => .error e
      | .bytes s =>
        let got := s.take n
        if got.isEmpty then .ok ([], rest)
        else if got.length < n then
          match readFull (n - got.length) rest with
          | .ok (more, rest) => .ok (got ++ more, rest)
          | .error e => .error e
        else
          let left := s.drop n
          .ok (got, if left.isEmpty then rest else .bytes left :: rest)

/-- How many bytes are still to arrive. -/
def pendingBytes : Source → Nat
  | [] => 0
  | .bytes s :: rest => s.length + pendingBytes rest
  | .failure _ :: rest => pendingBytes rest

end Switchyard.Stream
