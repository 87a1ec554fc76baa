import Switchyard.Notify.Failure
import Switchyard.Route.Module
import Switchyard.Settings.Endpoint

/-!
# Notifications over a socket

A notification is written as one frame to whoever listens on the subscribers' endpoint. The
connection is opened when it is first needed and given up after any failure, so that no frame ever
follows a broken one. When nobody listens, a notification is passed over.
-/

namespace Switchyard.Notify

open Route

/-- What the other side does during one notification. -/
structure Peer where
  /-- Whether it can be connected to. -/
  dial : Except IoError Unit
  /-- How many bytes are taken; `none` for any number. -/
  room : Option Nat
  /-- What a write beyond the room fails with. -/
  fullError : IoError
  /-- What flushing fails with, if it does. -/
  flushError : Option IoError

/-- A peer that takes everything. -/
def Peer.willing : Peer :=
  ⟨.ok (), none, .brokenPipe, none⟩

/-- A peer that has gone from its connections. -/
def Peer.gone (dial : Except IoError Unit) : Peer :=
  ⟨dial, some 0, .brokenPipe, none⟩

/-- Whether a failed attempt to connect means that nobody listens. -/
def isAbsence (e : IoError) : Bool :=
  e = .notFound ∨ e = .connectionRefused

/-- The sender of notifications over a socket. -/
structure SocketNotifier where
  endpoint : Settings.Endpoint
  /-- What was written to the connection there is. -/
  current : Option Octets
  /-- What was written to the connections before it, the oldest first. -/
  past : List Octets

namespace SocketNotifier

/-- A notifier without a connection. -/
def start (endpoint : Settings.Endpoint) : SocketNotifier :=
  ⟨endpoint, none, []⟩

/-- Gives up the connection. -/
def reset (n : SocketNotifier) : SocketNotifier :=
  { n with current := none, past := n.past ++ n.current.toList }

/-- Writes a notification to a connection that was written to before. -/
def writeTo (peer : Peer) (e : Envelope) (written : Octets) (n : SocketNotifier) :
    Except Error Unit × SocketNotifier :=
  match Frame.write e.octets ⟨peer.room, peer.fullError, peer.flushError, written⟩ with
  | (.ok (), sink) => (.ok (), { n with current := some sink.written })
  | (.error e, sink) => (.error (.frame e), { n with current := some sink.written }.reset)

/-- Delivers a notification. -/
def notify (peer : Peer) (e : Envelope) (n : SocketNotifier) :
    Except Error Unit × SocketNotifier :=
  match n.current with
  | some written => n.writeTo peer e written
  | none =>
    match peer.dial with
    | .ok () => n.writeTo peer e []
    | .error cause =>
      if isAbsence cause then (.ok (), n) else (.error (.connect n.endpoint.render cause), n)

/-- Delivers a notice. -/
def deliver (peer : Peer) (notice : Notice) (n : SocketNotifier) :
    Except Error Unit × SocketNotifier :=
  match notice with
  | .notify e => n.notify peer e
  | .reset => (.ok (), n.reset)

/-- What was written to each connection, the oldest first. -/
def connections (n : SocketNotifier) : List Octets :=
  n.past ++ n.current.toList

end SocketNotifier
end Switchyard.Notify
