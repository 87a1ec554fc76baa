import Switchyard.Json.Decoder
import Switchyard.Lock.Basic

/-!
# Choices in the settings

The bus that requests come from and the form of the log. Typed by a person, a choice may be spelled
in any case; in a document it must be spelled exactly.
-/

namespace Switchyard.Settings

/-- The bus that requests come from. -/
inductive BusKind where
  /-- The request socket. -/
  | unixSocket
  /-- The object bus. -/
  | ubus
  /-- The pub/sub bus. -/
  | mqtt
  deriving DecidableEq

/-- The form of the log. -/
inductive LogFormat where
  | json
  | compact
  deriving DecidableEq

/-- Why a choice is refused, in words. -/
def unknownChoice : String :=
  "Matching variant not found"

/-- The choice that a name stands for, whatever the case of its letters. -/
def choose? {α : Type} (names : List (String × α)) (text : String) : Option α :=
  let lower (s : String) := s.toList.map Char.toLower
  (names.find? fun (name, _) => lower name = lower text).map (·.2)

namespace BusKind

/-- The name of a bus. -/
def spelling : BusKind → String
  | unixSocket => "unix_socket"
  | ubus => "ubus"
  | mqtt => "mqtt"

/-- All buses by name. -/
def spellings : List (String × BusKind) :=
  [unixSocket, ubus, mqtt].map fun b => (b.spelling, b)

/-- Reads what a person typed, who may also write a hyphen. -/
def parse? : String → Option BusKind :=
  choose? (spellings ++ [("unix-socket", unixSocket)])

/-- Reads a bus in a document. -/
def decoder : Json.Decoder BusKind :=
  .choice spellings

/-- Between whom locks are shared: on the object bus every worker is a process of its own. -/
def lockKind : BusKind → LockKind
  | ubus => .process
  | unixSocket | mqtt => .thread

end BusKind

namespace LogFormat

/-- The name of a form. -/
def spelling : LogFormat → String
  | json => "json"
  | compact => "compact"

/-- All forms by name. -/
def spellings : List (String × LogFormat) :=
  [json, compact].map fun f => (f.spelling, f)

/-- Reads what a person typed. -/
def parse? : String → Option LogFormat :=
  choose? spellings

/-- Reads a form in a document. -/
def decoder : Json.Decoder LogFormat :=
  .choice spellings

end LogFormat
end Switchyard.Settings
