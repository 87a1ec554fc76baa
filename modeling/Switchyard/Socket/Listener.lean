import Switchyard.Settings.Endpoint

/-!
# Listeners

A listener takes its place in the file system by making a socket there. A socket that nobody serves
is taken away first; a socket that is served, and anything that is no socket, is left alone.
-/

namespace Switchyard.Socket

open Settings (Endpoint)
open Files

/-- Why a listener could not be made or ended badly. -/
inductive ListenerError where
  | resolve (host : String) (port : UInt16) (e : IoError)
  | resolveEmpty (host : String) (port : UInt16)
  | bindTcp (address : String) (e : IoError)
  | nonBlocking (e : IoError)
  | bindUnix (path : String) (e : IoError)
  | inUse (path : String)
  | notSocket (path : String)
  | metadata (path : String) (e : IoError)
  | probe (path : String) (e : IoError)
  | cleanup (path : String) (e : IoError)
  | thread (e : IoError)
  | crashed
  deriving DecidableEq

/-- The error in words. -/
def ListenerError.message : ListenerError → String
  | resolve host port e =>
    "failed to resolve TCP address " ++ host ++ ":" ++ toString port.toNat ++ ": " ++ e.message
  | resolveEmpty host port =>
    "no TCP addresses resolved for " ++ host ++ ":" ++ toString port.toNat
  | bindTcp address e => "failed to bind TCP listener at " ++ address ++ ": " ++ e.message
  | nonBlocking e => "failed to switch listener to non-blocking mode: " ++ e.message
  | bindUnix path e => "failed to bind unix listener at " ++ path ++ ": " ++ e.message
  | inUse path => "unix socket " ++ path ++ " is served by another process"
  | notSocket path => path ++ " exists and is not a unix socket"
  | metadata path e => "failed to inspect unix socket " ++ path ++ ": " ++ e.message
  | probe path e => "failed to probe existing unix socket " ++ path ++ ": " ++ e.message
  | cleanup path e => "failed to remove stale unix socket " ++ path ++ ": " ++ e.message
  | thread e => "failed to start accept thread: " ++ e.message
  | crashed => "accept thread panicked"

/-- The part of the network that a listener needs: the addresses of a host and a port, and whether
an address can be taken. -/
structure Network where
  resolve : String → UInt16 → Except IoError (List String)
  bind : String → Except IoError Unit

/-- Clears the place of a socket, if what is there may be taken away. -/
def clearPlace (path : String) (t : Tree) : Except ListenerError Tree :=
  if !t.contains path then .ok t
  else
    match t.lookup false path with
    | .error e => .error (.metadata path e)
    | .ok (.socket _) =>
      match t.connect path with
      | .ok () => .error (.inUse path)
      | .error e =>
        if e = .connectionRefused ∨ e = .notFound then
          match t.removeFile path with
          | .ok t => .ok t
          | .error e => .error (.cleanup path e)
        else .error (.probe path e)
    | .ok _ => .error (.notSocket path)

/-- Takes a place in the file system. -/
def bindUnix (path : String) (t : Tree) : Except ListenerError Tree :=
  match clearPlace path t with
  | .error e => .error e
  | .ok t =>
    match t.bind path with
    | .ok t => .ok t
    | .error e => .error (.bindUnix path e)

/-- Takes an address of the network. -/
def bindTcp (net : Network) (host : String) (port : UInt16) : Except ListenerError Unit :=
  match net.resolve host port with
  | .error e => .error (.resolve host port e)
  | .ok [] => .error (.resolveEmpty host port)
  | .ok (address :: _) =>
    match net.bind address with
    | .ok () => .ok ()
    | .error e => .error (.bindTcp address e)

/-- Makes a listener. A failure leaves the file system as it was, but for a stale socket. -/
def listen (net : Network) (t : Tree) : Endpoint → Except ListenerError Tree
  | .unix path => bindUnix path t
  | .tcp host port => (bindTcp net host port).map fun _ => t

/-- Ends a listener: its socket is removed. -/
def unlisten (t : Tree) : Endpoint → Tree
  | .unix path => (t.removeFile path).toOption.getD t
  | .tcp .. => t

end Switchyard.Socket
