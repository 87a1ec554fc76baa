import Switchyard.Json.Basic
import Switchyard.Octets

/-!
# Compact JSON text

`Json.write` puts the text of a value behind the text written so far. No blanks are written;
members keep the order they have.

In a string only the quotation mark, the backslash and the control characters below U+0020 are
escaped: the common ones by a letter, the others as four lower-case hexadecimal digits.
-/

namespace Switchyard.Json

/-- How a character stands inside a quoted string. -/
def escape (c : Char) : List Char :=
  if c = '"' then ['\\', '"']
  else if c = '\\' then ['\\', '\\']
  else if c = '\x08' then ['\\', 'b']
  else if c = '\x0c' then ['\\', 'f']
  else if c = '\n' then ['\\', 'n']
  else if c = '\r' then ['\\', 'r']
  else if c = '\t' then ['\\', 't']
  else if c.toNat < 0x20 then
    ['\\', 'u', '0', '0', Octets.hexDigit (c.toNat / 16), Octets.hexDigit (c.toNat % 16)]
  else [c]

/-- Writes a character of a quoted string. -/
def writeChar (out : String) (c : Char) : String :=
  (escape c).foldl String.push out

/-- Writes a string in quotation marks. -/
def writeString (out : String) (s : String) : String :=
  (s.toList.foldl writeChar (out.push '"')).push '"'

/-- Writes a number. -/
def writeNumber (out : String) : Number → String
  | .integer n => out ++ toString n.val
  | .double d => out ++ d.render

mutual

/-- Writes a value. -/
def write (out : String) : Json → String
  | .null => out ++ "null"
  | .bool true => out ++ "true"
  | .bool false => out ++ "false"
  | .number n => writeNumber out n
  | .string s => writeString out s
  | .array [] => out ++ "[]"
  | .array (j :: rest) => writeItems (write (out.push '[') j) rest
  | .object [] => out ++ "\x7b\x7d"
  | .object ((k, j) :: rest) =>
    writeMembers (write ((writeString (out.push '\x7b') k).push ':') j) rest

/-- Writes the items after the first and the closing bracket. -/
def writeItems (out : String) : List Json → String
  | [] => out.push ']'
  | j :: rest => writeItems (write (out.push ',') j) rest

/-- Writes the members after the first and the closing brace. -/
def writeMembers (out : String) : Members → String
  | [] => out.push '\x7d'
  | (k, j) :: rest => writeMembers (write ((writeString (out.push ',') k).push ':') j) rest

end

/-- The compact text of a value. -/
def render (j : Json) : String :=
  write "" j

end Switchyard.Json
