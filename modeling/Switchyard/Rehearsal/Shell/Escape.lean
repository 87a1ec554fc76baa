import Switchyard.Octets
import Switchyard.Text.Utf8

/-!
# Escapes in output

Backslashes in what is written. `Rules` says which escapes there are where; those in all places are
the single letters and up to three octal digits. Escapes give single bytes, which need not be UTF-8
together.

These are the rules of the programs on the machine of rehearsals. The daemon itself writes no
escapes but those of its data formats.
-/

namespace Switchyard.Rehearsal.Shell

/-- Many commands exist both inside the shell and as programs, which differ in details. -/
inductive Kind where
  | builtin
  | program
  deriving DecidableEq

/-- What came out of a part of a text. -/
structure Output where
  bytes : Octets
  complaints : List String
  /-- The exit code of the command. -/
  status : Nat
  /-- Whether the output goes on after it. -/
  goesOn : Bool

namespace Output

/-- Bytes without complaints. -/
def of (bytes : Octets) : Output :=
  ⟨bytes, [], 0, true⟩

/-- A complaint after which nothing more is written. -/
def failure (status : Nat) (complaint : String) : Output :=
  ⟨[], [complaint], status, false⟩

/-- One output after the other. -/
def append (a b : Output) : Output :=
  if a.goesOn then
    ⟨a.bytes ++ b.bytes, a.complaints ++ b.complaints, max a.status b.status, b.goesOn⟩
  else a

end Output

namespace Escape

/-- Which escapes there are beside the common ones. -/
structure Rules where
  /-- `\c` ends the output. -/
  ends : Bool
  /-- A zero before octal digits does not count as one of them. -/
  zero : Bool
  /-- `\x` with up to two hexadecimal digits. -/
  hex : Bool
  /-- Quotation marks, and code points with `\u` and `\U`. What lacks its digits is refused. -/
  codes : Bool

/-- The rules for formats. -/
def Rules.format : Kind → Rules
  | .builtin => ⟨false, false, false, false⟩
  | .program => ⟨true, false, true, true⟩

/-- The rules for arguments of formats. -/
def Rules.argument : Kind → Rules
  | .builtin => ⟨true, true, false, false⟩
  | .program => ⟨true, true, true, true⟩

/-- The rules for text that is echoed. -/
def Rules.echo : Kind → Rules
  | .builtin => Rules.argument .builtin
  | .program => ⟨true, true, true, false⟩

/-- The bytes of single letters. -/
def letters : List (Char × UInt8) :=
  [('a', 7), ('b', 8), ('e', 27), ('f', 12), ('n', 10), ('r', 13), ('t', 9), ('v', 11), ('\\', 92)]

/-- Whether a character is an octal digit. -/
def isOctal (c : Char) : Bool :=
  '0' ≤ c && c ≤ '7'

/-- Whether a character is a hexadecimal digit. -/
def isHex (c : Char) : Bool :=
  (Octets.hexValue? c).isSome

/-- The number that digits spell in a base. -/
def number (base : Nat) (digits : List Char) : Nat :=
  digits.foldl (fun n c => base * n + (Octets.hexValue? c).getD 0) 0

/-- The bytes of a character. -/
def charBytes (c : Char) : Octets :=
  Utf8.encodeChars [c]

/-- The bytes for a code point: only those of ASCII have characters. -/
def codeBytes (letter : Char) (digits : List Char) : Octets :=
  let n := number 16 digits
  if n < 0x80 then [UInt8.ofNat n] else Utf8.encodeChars ('\\' :: letter :: digits.map Char.toUpper)

/-- What an escape amounts to. -/
inductive Taken where
  | bytes (b : Octets) (rest : List Char)
  | ends
  /-- Digits are missing. -/
  | malformed

/-- Takes what follows a backslash. -/
def take (r : Rules) : List Char → Taken
  | [] => .bytes [92] []
  | c :: rest =>
    let s := if r.zero && c = '0' && rest.head?.any isOctal then rest else c :: rest
    let digits := (s.take 3).takeWhile isOctal
    if !digits.isEmpty then .bytes [UInt8.ofNat (number 8 digits)] (s.drop digits.length)
    else if c = 'c' && r.ends then .ends
    else if c = 'x' && r.hex then
      let digits := (rest.take 2).takeWhile isHex
      if !digits.isEmpty then .bytes [UInt8.ofNat (number 16 digits)] (rest.drop digits.length)
      else if r.codes then .malformed
      else .bytes [92, 120] rest
    else if (c = 'u' || c = 'U') && r.codes then
      let count := if c = 'u' then 4 else 8
      let digits := (rest.take count).takeWhile isHex
      if digits.length < count then .malformed else .bytes (codeBytes c digits) (rest.drop count)
    else if c = '"' && r.codes then .bytes [34] rest
    else
      match letters.find? (·.1 = c) with
      | some (_, b) => .bytes [b] rest
      | none => .bytes (92 :: charBytes c) rest

/-- The complaint about missing digits. -/
def malformed : Output :=
  .failure 1 "missing hexadecimal number in escape"

/-- A text with its escapes resolved. -/
def resolve (r : Rules) : (fuel : Nat) → List Char → Output
  | 0, _ | _, [] => .of []
  | fuel + 1, '\\' :: rest =>
    match take r rest with
    | .bytes b rest => (Output.of b).append (resolve r fuel rest)
    | .ends => ⟨[], [], 0, false⟩
    | .malformed => malformed
  | fuel + 1, c :: rest => (Output.of (charBytes c)).append (resolve r fuel rest)

/-- What all of a text becomes. -/
def text (r : Rules) (s : String) : Output :=
  resolve r s.length s.toList

end Escape
end Switchyard.Rehearsal.Shell
