import Switchyard.Frame
import Switchyard.Route.Dispatch

/-!
# Connections to the request socket

A client sends one framed request and gets one framed reply. A connection without a complete frame
gets nothing; what follows the first frame is never looked at.
-/

namespace Switchyard.Socket

open Route

/-- What became of a connection. -/
structure Served where
  /-- The payload of the reply; none if there was no request. -/
  reply : Option Octets
  /-- Why the connection was dropped without a request, if it did not end by itself. -/
  dropped : Option Frame.Error
  notices : List Notice
  registry : Registry
  /-- Milliseconds the handler took. -/
  duration : Nat

/-- Serves a connection on which these bytes arrive; a request may have at most `limit` bytes. -/
def serveWithin (limit : Nat) (r : Registry) (source : Stream.Source) : Served :=
  match Frame.read limit source with
  | .error e => ⟨none, some e, [], r, 0⟩
  | .ok (none, _) => ⟨none, none, [], r, 0⟩
  | .ok (some payload, _) =>
    let d := dispatchBytes r payload
    ⟨some d.reply.octets, none, d.notices, d.registry, d.duration⟩

/-- Serves a connection with the usual limit. -/
def serve (r : Registry) (source : Stream.Source) : Served :=
  serveWithin Frame.maxPayload r source

/-- Sends the reply to the client, if there is one. -/
def Served.send (s : Served) (client : Stream.Sink) : Except Frame.Error Unit × Stream.Sink :=
  match s.reply with
  | some payload => Frame.write payload client
  | none => (.ok (), client)

/-- All bytes that a connection sends to its client. -/
def Served.written (s : Served) : Octets :=
  (s.send .unbounded).2.written

end Switchyard.Socket
