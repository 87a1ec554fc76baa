import Switchyard.Notify.Socket

/-!
# Rehearsing subscribers

The other side of a socket for notifications. It may listen, stop listening, lose the file of its
socket, and hang up; meanwhile notifications are sent, and now and then it looks at what has come.

It stands for the peer of a notifier, which sees of it what connecting and writing answer.
-/

namespace Switchyard.Rehearsal

open Notify

/-- A subscriber's end of a connection. -/
structure Line where
  /-- The place of the connection among those of the notifier. -/
  place : Nat
  /-- How many frames have been looked at. -/
  seen : Nat

/-- A notifier and its subscriber. -/
structure Subscribed where
  notifier : SocketNotifier
  /-- Whether the file of the socket is there. -/
  file : Bool
  /-- The connections, while the subscriber listens. -/
  lines : Option (List Line)
  /-- Whether the subscriber has gone from the notifier's connection. -/
  gone : Bool

namespace Subscribed

/-- Nobody listens yet. -/
def start (endpoint : Settings.Endpoint) : Subscribed :=
  ⟨.start endpoint, false, none, false⟩

/-- Starts to listen, at a new socket. -/
def listen (s : Subscribed) : Subscribed :=
  { s with file := true, lines := some [], gone := true }

/-- Stops to listen; the file stays. -/
def unlisten (s : Subscribed) : Subscribed :=
  { s with lines := none, gone := true }

/-- Removes the file; what is connected stays so. -/
def removeFile (s : Subscribed) : Subscribed :=
  { s with file := false }

/-- Closes all connections. -/
def hangUp (s : Subscribed) : Subscribed :=
  { s with lines := s.lines.map fun _ => [], gone := true }

/-- What an attempt to connect meets. -/
def dial (s : Subscribed) : Except IoError Unit :=
  match s.notifier.endpoint.path?.bind Files.Tree.socketPathError? with
  | some e => .error e
  | none =>
    if !s.file then .error .notFound
    else if s.lines.isNone then .error .connectionRefused
    else .ok ()

/-- Delivers a notice. -/
def deliver (notice : Route.Notice) (s : Subscribed) : Except Error Unit × Subscribed :=
  let fresh := s.notifier.current.isNone
  let peer := if s.gone && !fresh then Peer.gone s.dial else { Peer.willing with dial := s.dial }
  let (r, n) := s.notifier.deliver peer notice
  let opened := fresh && n.current.isSome
  (r, { s with
    notifier := n
    lines := if opened then s.lines.map (· ++ [⟨n.past.length, 0⟩]) else s.lines
    gone := if opened then false else s.gone })

/-- The frames of a connection that have not been looked at, and whether it is closed. -/
def look (s : Subscribed) (l : Line) : List Octets × Bool :=
  let written := s.notifier.connections[l.place]?.getD []
  ((Frame.readAll Frame.maxPayload [.bytes written]).1.drop l.seen,
    l.place < s.notifier.past.length)

/-- Looks at all connections; none while the subscriber does not listen. -/
def receive (s : Subscribed) : Option (List (List Octets × Bool)) × Subscribed :=
  let seen (l : Line) : Line := { l with seen := l.seen + (s.look l).1.length }
  (s.lines.map (·.map s.look), { s with lines := s.lines.map (·.map seen) })

end Subscribed
end Switchyard.Rehearsal
