import Switchyard.Octets
import Switchyard.Stream.Failure

/-!
# Byte sinks

What a writer sees of the other side: a sink takes bytes until its room is used up, then it fails.
A write that fails may have passed on the first part of its bytes.
-/

namespace Switchyard.Stream

/-- The receiving end of a stream. -/
structure Sink where
  /-- How many more bytes are taken; `none` for any number. -/
  room : Option Nat
  /-- What a write beyond the room fails with. -/
  fullError : IoError
  /-- What flushing fails with, if it does. -/
  flushError : Option IoError
  /-- What has been taken, first byte first. -/
  written : Octets

namespace Sink

/-- A sink that takes everything. -/
def unbounded : Sink :=
  ⟨none, .brokenPipe, none, []⟩

/-- Writes all bytes, or as many as there is room for. -/
def writeAll (sink : Sink) (s : Octets) : Except IoError Unit × Sink :=
  match sink.room with
  | none => (.ok (), { sink with written := sink.written ++ s })
  | some room =>
    let taken := s.take room
    let sink := { sink with room := some (room - taken.length), written := sink.written ++ taken }
    if taken.length = s.length then (.ok (), sink) else (.error sink.fullError, sink)

/-- Flushes what was written. -/
def flush (sink : Sink) : Except IoError Unit :=
  match sink.flushError with
  | some e => .error e
  | none => .ok ()

end Sink
end Switchyard.Stream
