import Switchyard.Json.Printer
import Switchyard.Text.Quoted

/-!
# What can be wrong with JSON text

* `Cause` says what is wrong, `Cause.message` words it.
* A `Fault` is a cause and the text that was still unread. It is *settled* once its place is fixed;
  a fault of the value as a whole (a missing field, say) is raised unsettled, and the reader of the
  enclosing value settles it where it stops.
* `Fault.message` adds the line and the column, counted in bytes, when the place is settled.
-/

namespace Switchyard.Json

/-- What a typed reader met in place of what it wanted. -/
inductive Found where
  | null
  | bool (b : Bool)
  | number (n : Number)
  | string (s : String)
  | sequence
  | map

/-- Why text, or a value, is refused. -/
inductive Cause where
  | eofValue
  | eofList
  | eofObject
  | eofString
  | expectedColon
  | expectedListEnd
  | expectedObjectEnd
  | expectedValue
  | expectedWord
  | invalidEscape
  | invalidNumber
  | numberOutOfRange
  | invalidUnicode
  | controlCharacter
  | keyNotString
  | loneSurrogate
  | openSurrogate
  | trailingComma
  | trailingText
  | tooDeep
  | wrongType (found : Found) (expected : String)
  | wrongValue (found : Found) (expected : String)
  | wrongLength (length : Nat) (expected : String)
  | unknownVariant (name : String) (known : List String)
  | missingField (name : String)
  | duplicateField (name : String)
  | other (text : String)

/-- What was found, in words. -/
def Found.message : Found → String
  | .null => "null"
  | .bool true => "boolean `true`"
  | .bool false => "boolean `false`"
  | .number (.integer n) => "integer `" ++ toString n.val ++ "`"
  | .number (.double d) => "floating point `" ++ d.render ++ "`"
  | .string s => "string " ++ Text.quote s
  | .sequence => "sequence"
  | .map => "map"

/-- What a value looks like to a reader that wants something else. -/
def Found.ofJson : Json → Found
  | .null => .null
  | .bool b => .bool b
  | .number n => .number n
  | .string s => .string s
  | .array _ => .sequence
  | .object _ => .map

/-- The choices a closed set of names leaves. -/
def oneOf (known : List String) : String :=
  match known.map fun k => "`" ++ k ++ "`" with
  | [] => "there are no variants"
  | [a] => "expected " ++ a
  | [a, b] => "expected " ++ a ++ " or " ++ b
  | several => "expected one of " ++ ", ".intercalate several

/-- The cause in words. -/
def Cause.message : Cause → String
  | .eofValue => "EOF while parsing a value"
  | .eofList => "EOF while parsing a list"
  | .eofObject => "EOF while parsing an object"
  | .eofString => "EOF while parsing a string"
  | .expectedColon => "expected `:`"
  | .expectedListEnd => "expected `,` or `]`"
  | .expectedObjectEnd => "expected `,` or `\x7d`"
  | .expectedValue => "expected value"
  | .expectedWord => "expected ident"
  | .invalidEscape => "invalid escape"
  | .invalidNumber => "invalid number"
  | .numberOutOfRange => "number out of range"
  | .invalidUnicode => "invalid unicode code point"
  | .controlCharacter => "control character (\\u0000-\\u001F) found while parsing a string"
  | .keyNotString => "key must be a string"
  | .loneSurrogate => "lone leading surrogate in hex escape"
  | .openSurrogate => "unexpected end of hex escape"
  | .trailingComma => "trailing comma"
  | .trailingText => "trailing characters"
  | .tooDeep => "recursion limit exceeded"
  | .wrongType found expected => "invalid type: " ++ found.message ++ ", expected " ++ expected
  | .wrongValue found expected => "invalid value: " ++ found.message ++ ", expected " ++ expected
  | .wrongLength n expected => "invalid length " ++ toString n ++ ", expected " ++ expected
  | .unknownVariant name known => "unknown variant `" ++ name ++ "`, " ++ oneOf known
  | .missingField name => "missing field `" ++ name ++ "`"
  | .duplicateField name => "duplicate field `" ++ name ++ "`"
  | .other text => text

/-- A cause and where it arose. -/
structure Fault where
  cause : Cause
  /-- What was unread when the fault arose. -/
  rest : Octets
  /-- Whether the place is final. -/
  settled : Bool

namespace Fault

/-- A fault at the present place. -/
def here (cause : Cause) (rest : Octets) : Fault :=
  ⟨cause, rest, true⟩

/-- A fault at the byte that comes next: the place counts that byte as read. -/
def next (cause : Cause) (rest : Octets) : Fault :=
  ⟨cause, rest.tail, true⟩

/-- A fault of a whole value, whose reader is still to say where it stops. -/
def unsettled (cause : Cause) (rest : Octets) : Fault :=
  ⟨cause, rest, false⟩

/-- Settles a fault at a place, unless it has one already. -/
def settle (f : Fault) (rest : Octets) : Fault :=
  if f.settled then f else ⟨f.cause, rest, true⟩

end Fault

/-- A place in a text: lines count from one, columns are the bytes read of the line. -/
structure Position where
  line : Nat
  column : Nat
  deriving DecidableEq

/-- The place after some bytes. -/
def Position.after (read : Octets) : Position :=
  read.foldl (fun p b => if b = 10 then ⟨p.line + 1, 0⟩ else ⟨p.line, p.column + 1⟩) ⟨1, 0⟩

/-- The fault in words, with its place in the text that was read. -/
def Fault.message (text : Octets) (f : Fault) : String :=
  if f.settled then
    let p := Position.after (text.take (text.length - f.rest.length))
    f.cause.message ++ " at line " ++ toString p.line ++ " column " ++ toString p.column
  else f.cause.message

end Switchyard.Json
