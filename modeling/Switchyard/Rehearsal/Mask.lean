import Switchyard.Envelope

/-!
# Labels for what differs from run to run

Process ids, temporary directories and stack traces are different in every run. A mask puts a label
in the place of each of them, wherever they stand in a text or in a value, and the other way round.

The daemon knows no labels: a rehearsal puts them on what the daemon gave, so that two runs can be
compared.
-/

namespace Switchyard.Rehearsal

/-- Texts and what is put in their place. They are replaced one after the other. -/
abbrev Mask := List (String × String)

namespace Mask

/-- A text with labels. -/
def text (m : Mask) (s : String) : String :=
  m.foldl (fun s (old, label) => s.replace old label) s

mutual

/-- A value with labels in all its texts; keys stay as they are. -/
def value (m : Mask) : Json → Json
  | .string s => .string (m.text s)
  | .array items => .array (values m items)
  | .object members => .object (memberValues m members)
  | j => j

/-- Values with labels. -/
def values (m : Mask) : List Json → List Json
  | [] => []
  | j :: rest => value m j :: values m rest

/-- Members with labels in their values. -/
def memberValues (m : Mask) : Json.Members → Json.Members
  | [] => []
  | (k, j) :: rest => (k, value m j) :: memberValues m rest

end

end Mask

/-- The process id that an envelope gives: 32 lower-case hexadecimal digits. -/
def processId? (e : Envelope) : Option String :=
  ((e.data.bind (Json.get? "process_id")).bind Json.string?).filter fun id =>
    id.length = 32 && id.toList.all fun c => c.isDigit || ('a' ≤ c && c ≤ 'f')

end Switchyard.Rehearsal
