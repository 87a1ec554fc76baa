import Switchyard.Socket.Listener
import Switchyard.Url.Address

/-!
# Rehearsing the network

A machine that is cut off: it knows its own name and numeric addresses, its own addresses can be
taken, and nobody can be reached.

It stands for the system below the daemon, which only sees what a `Socket.Network` answers.
-/

namespace Switchyard.Rehearsal

/-- The address of this machine. -/
def ownAddress : String := "127.0.0.1"

/-- The failure to look up a name when no one can be asked. -/
def lookupFailed : IoError :=
  .other "failed to lookup address information: Temporary failure in name resolution"

/-- A number of a numeric address, in decimal or, after a zero, in another base. -/
def addressNumber? : List Char → Option Nat
  | [] => none
  | '0' :: 'x' :: d :: digits | '0' :: 'X' :: d :: digits => Url.numberOf? 16 (d :: digits)
  | '0' :: digits => Url.numberOf? 8 digits
  | digits => Url.numberOf? 10 digits

/-- The bytes of a numeric address of one to four numbers. All but the last stand for a byte each,
and the last for those that are left. -/
def addressBytes? (host : String) : Option Octets :=
  match ((host.toList.splitOn '.').mapM addressNumber?).map List.reverse with
  | some (last :: front) =>
    if 3 < front.length ∨ front.any (255 < ·) then none
    else if last < Nat.pow 256 (4 - front.length) then
      some (front.reverse.map UInt8.ofNat ++ Octets.bigEndian (4 - front.length) last)
    else none
  | _ => none

/-- The numeric address of a host, if it needs no looking up. -/
def address? (host : String) : Option String :=
  if host = "localhost" then some ownAddress
  else
    match addressBytes? host with
    | some bytes => some (".".intercalate (bytes.map fun b => toString b.toNat))
    | none => (Url.parseGroups? host.toList).map fun groups => "[" ++ Url.renderGroups groups ++ "]"

/-- Whether an address belongs to this machine. -/
def isOwn (address : String) : Bool :=
  ["127.", "0.0.0.0:", "[::1]:", "[::]:"].any fun start => address.startsWith start

/-- The network of a machine that is cut off. -/
def network : Socket.Network where
  resolve host port :=
    match address? host with
    | some a => .ok [a ++ ":" ++ toString port.toNat]
    | none => .error (if host.toList.contains '\x00' then .nulInName else lookupFailed)
  bind address := if isOwn address then .ok () else .error .addressNotAvailable

end Switchyard.Rehearsal
