import Switchyard.Json.Fault
import Switchyard.Text.Utf8

/-!
# Reading JSON text

A recursive-descent reader over bytes.

* `readValue` reads one value from the front of the text and returns what follows it. Nesting is
  limited to `maxDepth` containers; of members with one key the last one counts.
* Every reader that calls itself takes fuel. No byte takes more than two nested calls, so fuel
  beyond twice the length of the text is never used up; `parse` provides it.
* A number without fraction and exponent that fits 64 bits is an integer. Any other is a double,
  computed from its leading digits (as many as fit 64 bits) by one multiplication or division with
  a power of ten, rounded; this fixes its last bit.
* `skipValue` passes over a value whose content does not matter. It checks brackets, commas and the
  shape of scalars, but neither the nesting nor the characters of strings.
-/

namespace Switchyard.Json

/-! ### Bytes -/

/-- The four bytes that may stand between tokens. -/
def isBlank (b : UInt8) : Bool :=
  b == 0x20 || b == 0x0A || b == 0x09 || b == 0x0D

/-- The text from the first byte that is not blank. -/
def skipBlanks : Octets → Octets
  | [] => []
  | b :: rest => if isBlank b then skipBlanks rest else b :: rest

/-- Whether a byte is a decimal digit. -/
def isDigit (b : UInt8) : Bool :=
  0x30 ≤ b && b ≤ 0x39

/-- The value of a decimal digit. -/
def digitValue (b : UInt8) : Nat :=
  b.toNat - 0x30

/-- The text after a run of digits. -/
def skipDigits : Octets → Octets
  | [] => []
  | b :: rest => if isDigit b then skipDigits rest else b :: rest

/-- The ASCII bytes of a word. -/
def ascii (s : String) : Octets :=
  s.toList.map fun c => UInt8.ofNat c.toNat

/-- Reads the given bytes. -/
def readWord : (word : Octets) → Octets → Except Fault Octets
  | [], s => .ok s
  | _ :: _, [] => .error (.here .eofValue [])
  | w :: word, b :: rest => if b = w then readWord word rest else .error (.here .expectedWord rest)

/-! ### Numbers -/

/-- The digits of a number as far as they fit 64 bits. -/
structure Digits where
  /-- The number the digits spell. -/
  value : Nat
  /-- How many digits were taken. -/
  count : Nat
  /-- Whether the next byte is a digit that would not fit. -/
  full : Bool
  rest : Octets

/-- Takes digits onto `n` while the number stays below `2 ^ 64`. -/
def takeDigits (n count : Nat) : Octets → Digits
  | [] => ⟨n, count, false, []⟩
  | b :: rest =>
    if isDigit b then
      let m := n * 10 + digitValue b
      if m < 0x10000000000000000 then takeDigits m (count + 1) rest
      else ⟨n, count, true, b :: rest⟩
    else ⟨n, count, false, b :: rest⟩

/-- The double nearest to `10 ^ k`, for the powers that doubles reach. -/
def powerOfTen? (k : Nat) : Option Double :=
  if k ≤ 308 then Double.ofNat? (Nat.pow 10 k) else none

/-- Scales a double by a power of ten: one rounded operation for exponents up to 308 in size, and
division by `10 ^ 308` before that for smaller ones. `none` when the result is too large. -/
def scaleByTen : (fuel : Nat) → Double → Int → Option Double
  | 0, f, _ => some f
  | fuel + 1, f, e =>
    match powerOfTen? e.natAbs with
    | some p => if 0 ≤ e then f.times? p else f.dividedBy? p
    | none =>
      if f = .zero then some f
      else if 0 ≤ e then none
      else
        match powerOfTen? 308 with
        | some p => (f.dividedBy? p).bind fun g => scaleByTen fuel g (e + 308)
        | none => none

/-- The double `± n * 10 ^ e`. -/
def assemble (negative : Bool) (n : Nat) (e : Int) (rest : Octets) :
    Except Fault (Number × Octets) :=
  match (Double.ofNat? n).bind fun f => scaleByTen 8 f e with
  | some f => .ok (.double (if negative then f.negate else f), rest)
  | none => .error (.here .numberOutOfRange rest)

/-- The largest exponent that is still counted. -/
def maxExponent : Nat := 0x7fffffff

/-- Takes the digits of an exponent onto `e`; `none` once it exceeds `maxExponent`, with the text
after the digit that did it. -/
def takeExponent (e : Nat) : Octets → Option Nat × Octets
  | [] => (some e, [])
  | b :: rest =>
    if isDigit b then
      let e' := e * 10 + digitValue b
      if e' ≤ maxExponent then takeExponent e' rest else (none, rest)
    else (some e, b :: rest)

/-- Reads an exponent, after its letter, for the digits `n * 10 ^ e`. -/
def readExponent (negative : Bool) (n : Nat) (e : Int) (s : Octets) :
    Except Fault (Number × Octets) :=
  let (down, s) : Bool × Octets :=
    match s with
    | 0x2B :: rest => (false, rest)
    | 0x2D :: rest => (true, rest)
    | _ => (false, s)
  match s with
  | [] => .error (.here .eofValue [])
  | b :: rest =>
    if isDigit b then
      match takeExponent (digitValue b) rest with
      | (some x, rest) =>
        let sum := if down then e - x else e + x
        assemble negative n (max (-0x80000000) (min 0x7fffffff sum)) rest
      | (none, rest) =>
        if n ≠ 0 ∧ !down then .error (.here .numberOutOfRange rest)
        else
          .ok (.double (if negative then Double.zero.negate else .zero), skipDigits rest)
    else .error (.here .invalidNumber rest)

/-- What may follow the digits of a fraction. -/
def readAfterFraction (negative : Bool) (n : Nat) (e : Int) (s : Octets) :
    Except Fault (Number × Octets) :=
  match s with
  | 0x65 :: rest => readExponent negative n e rest
  | 0x45 :: rest => readExponent negative n e rest
  | _ => assemble negative n e s

/-- Reads a fraction, after its point. Digits beyond 64 bits are passed over. -/
def readFraction (negative : Bool) (n : Nat) (e : Int) (s : Octets) :
    Except Fault (Number × Octets) :=
  let d := takeDigits n 0 s
  if d.full then readAfterFraction negative d.value (e - d.count) (skipDigits d.rest)
  else if d.count = 0 then
    match d.rest with
    | [] => .error (.next .eofValue [])
    | _ => .error (.next .invalidNumber d.rest)
  else readAfterFraction negative d.value (e - d.count) d.rest

/-- What may follow the integer digits of a number that is no 64-bit integer. -/
def readAfterInteger (negative : Bool) (n : Nat) (e : Int) (s : Octets) :
    Except Fault (Number × Octets) :=
  match s with
  | 0x2E :: rest => readFraction negative n e rest
  | _ => readAfterFraction negative n e s

/-- The integer `± n`, for `n` below `2 ^ 64`; as a double where no 64-bit integer holds it, which
includes the negative zero. -/
def ofInteger (negative : Bool) (n : Nat) (rest : Octets) : Except Fault (Number × Octets) :=
  if negative ∧ (n = 0 ∨ 0x8000000000000000 < n) then assemble true n 0 rest
  else
    match Integer.ofInt? (if negative then -(n : Int) else n) with
    | some i => .ok (.integer i, rest)
    | none => assemble negative n 0 rest

/-- Reads what follows integer digits `n`. -/
def readTail (negative : Bool) (n : Nat) (s : Octets) : Except Fault (Number × Octets) :=
  match s with
  | 0x2E :: _ => readAfterInteger negative n 0 s
  | 0x65 :: _ => readAfterInteger negative n 0 s
  | 0x45 :: _ => readAfterInteger negative n 0 s
  | _ => ofInteger negative n s

/-- Reads a number, after its sign. -/
def readNumber (negative : Bool) (s : Octets) : Except Fault (Number × Octets) :=
  match s with
  | [] => .error (.here .eofValue [])
  | b :: rest =>
    if b = 0x30 then
      match rest with
      | c :: _ => if isDigit c then .error (.next .invalidNumber rest) else readTail negative 0 rest
      | [] => readTail negative 0 rest
    else if isDigit b then
      let d := takeDigits (digitValue b) 0 rest
      if d.full then
        let after := skipDigits d.rest
        readAfterInteger negative d.value (d.rest.length - after.length : Nat) after
      else readTail negative d.value d.rest
    else .error (.here .invalidNumber rest)

/-! ### Strings -/

/-- The value of four hexadecimal digits. -/
def hexWord? (a b c d : UInt8) : Option Nat := do
  let a ← Octets.hexValue? (Char.ofNat a.toNat)
  let b ← Octets.hexValue? (Char.ofNat b.toNat)
  let c ← Octets.hexValue? (Char.ofNat c.toNat)
  let d ← Octets.hexValue? (Char.ofNat d.toNat)
  return ((a * 16 + b) * 16 + c) * 16 + d

/-- Reads the four digits of an escape. -/
def readHexWord (s : Octets) : Except Fault (Nat × Octets) :=
  match s with
  | a :: b :: c :: d :: rest =>
    match hexWord? a b c d with
    | some n => .ok (n, rest)
    | none => .error (.here .invalidEscape rest)
  | _ => .error (.here .eofString [])

/-- Reads the second half of a surrogate pair, whose first half was `high`. -/
def readLowSurrogate (high : Nat) (s : Octets) : Except Fault (Char × Octets) :=
  match s with
  | [] => .error (.here .eofString [])
  | 0x5C :: rest =>
    match rest with
    | [] => .error (.here .eofString [])
    | 0x75 :: rest => do
      let (low, rest) ← readHexWord rest
      if 0xDC00 ≤ low ∧ low ≤ 0xDFFF then
        return (Char.ofNat ((high - 0xD800) * 0x400 + (low - 0xDC00) + 0x10000), rest)
      else throw (.here .loneSurrogate rest)
    | _ :: rest => .error (.here .openSurrogate rest)
  | _ :: rest => .error (.here .openSurrogate rest)

/-- Reads an escape, after its backslash. -/
def readEscape (s : Octets) : Except Fault (Char × Octets) :=
  match s with
  | [] => .error (.here .eofString [])
  | b :: rest =>
    if b = 0x22 then .ok ('"', rest)
    else if b = 0x5C then .ok ('\\', rest)
    else if b = 0x2F then .ok ('/', rest)
    else if b = 0x62 then .ok ('\x08', rest)
    else if b = 0x66 then .ok ('\x0c', rest)
    else if b = 0x6E then .ok ('\n', rest)
    else if b = 0x72 then .ok ('\r', rest)
    else if b = 0x74 then .ok ('\t', rest)
    else if b = 0x75 then do
      let (n, rest) ← readHexWord rest
      if 0xDC00 ≤ n ∧ n ≤ 0xDFFF then throw (.here .loneSurrogate rest)
      else if 0xD800 ≤ n ∧ n ≤ 0xDBFF then readLowSurrogate n rest
      else return (Char.ofNat n, rest)
    else .error (.here .invalidEscape rest)

/-- Reads the bytes of a string up to its closing quotation mark, onto the reversed `acc`. -/
def readQuoted : (fuel : Nat) → (acc : Octets) → Octets → Except Fault (Octets × Octets)
  | 0, _, s => .error (.here .eofString s)
  | _ + 1, _, [] => .error (.here .eofString [])
  | fuel + 1, acc, b :: rest =>
    if b = 0x22 then .ok (acc.reverse, rest)
    else if b = 0x5C then do
      let (c, rest) ← readEscape rest
      readQuoted fuel ((String.utf8EncodeChar c).reverse ++ acc) rest
    else if b < 0x20 then .error (.here .controlCharacter rest)
    else readQuoted fuel (b :: acc) rest

/-- Reads a string, after its opening quotation mark. Ill-formed bytes are a fault at the closing
one. -/
def readString (fuel : Nat) (s : Octets) : Except Fault (String × Octets) := do
  let (bytes, rest) ← readQuoted fuel [] s
  match Utf8.decode? bytes with
  | some t => return (t, rest)
  | none => throw (.here .invalidUnicode (0x22 :: rest))

/-! ### Containers -/

/-- What stands at the place of a list's next item: `some` text to read it from, or the closing
bracket. -/
def nextItem (first : Bool) (s : Octets) : Except Fault (Option Octets) :=
  match skipBlanks s with
  | [] => .error (.next .eofList [])
  | b :: rest =>
    if b = 0x5D then .ok none
    else if first then .ok (some (b :: rest))
    else if b = 0x2C then
      match skipBlanks rest with
      | [] => .error (.next .eofValue [])
      | c :: rest =>
        if c = 0x5D then .error (.next .trailingComma (c :: rest)) else .ok (some (c :: rest))
    else .error (.next .expectedListEnd (b :: rest))

/-- What stands at the place of an object's next key: the text after its opening quotation mark,
or the closing brace. -/
def nextKey (first : Bool) (s : Octets) : Except Fault (Option Octets) :=
  match skipBlanks s with
  | [] => .error (.next .eofObject [])
  | b :: rest =>
    if b = 0x7D then .ok none
    else if first then
      if b = 0x22 then .ok (some rest) else .error (.next .keyNotString (b :: rest))
    else if b = 0x2C then
      match skipBlanks rest with
      | [] => .error (.next .eofValue [])
      | c :: rest =>
        if c = 0x22 then .ok (some rest)
        else if c = 0x7D then .error (.next .trailingComma (c :: rest))
        else .error (.next .keyNotString (c :: rest))
    else .error (.next .expectedObjectEnd (b :: rest))

/-- Reads the colon after a key. -/
def readColon (s : Octets) : Except Fault Octets :=
  match skipBlanks s with
  | [] => .error (.next .eofObject [])
  | b :: rest => if b = 0x3A then .ok rest else .error (.next .expectedColon (b :: rest))

/-- Reads the end of a list that needs no more items: the outcome, and where the reader stands. -/
def closeList (s : Octets) : Option Fault × Octets :=
  match skipBlanks s with
  | [] => (some (.next .eofList []), [])
  | b :: rest =>
    if b = 0x5D then (none, rest)
    else if b = 0x2C then
      match skipBlanks rest with
      | 0x5D :: rest => (some (.next .trailingComma (0x5D :: rest)), 0x5D :: rest)
      | rest => (some (.next .trailingText rest), rest)
    else (some (.next .trailingText (b :: rest)), b :: rest)

/-- Reads the end of an object that needs no more members. -/
def closeObject (s : Octets) : Option Fault × Octets :=
  match skipBlanks s with
  | [] => (some (.next .eofObject []), [])
  | b :: rest =>
    if b = 0x7D then (none, rest)
    else if b = 0x2C then (some (.next .trailingComma (b :: rest)), b :: rest)
    else (some (.next .trailingText (b :: rest)), b :: rest)

/-- How many containers may be open around a value, one more than are accepted. -/
def maxDepth : Nat := 128

mutual

/-- Reads a value; `depth` counts down with each open container and must not reach zero. -/
def readValue : (fuel depth : Nat) → Octets → Except Fault (Json × Octets)
  | 0, _, s => .error (.here .tooDeep s)
  | fuel + 1, depth, s =>
    match skipBlanks s with
    | [] => .error (.next .eofValue [])
    | b :: rest =>
      if b = 0x6E then do return (.null, ← readWord (ascii "ull") rest)
      else if b = 0x74 then do return (.bool true, ← readWord (ascii "rue") rest)
      else if b = 0x66 then do return (.bool false, ← readWord (ascii "alse") rest)
      else if b = 0x2D then do
        let (n, rest) ← readNumber true rest
        return (.number n, rest)
      else if isDigit b then do
        let (n, rest) ← readNumber false (b :: rest)
        return (.number n, rest)
      else if b = 0x22 then do
        let (t, rest) ← readString fuel rest
        return (.string t, rest)
      else if b = 0x5B then
        if depth ≤ 1 then .error (.next .tooDeep (b :: rest))
        else readItems fuel (depth - 1) [] rest
      else if b = 0x7B then
        if depth ≤ 1 then .error (.next .tooDeep (b :: rest))
        else readMembers fuel (depth - 1) true [] rest
      else .error (.next .expectedValue (b :: rest))

/-- Reads the items of a list, after its bracket, onto the reversed `acc`. -/
def readItems : (fuel depth : Nat) → (acc : List Json) → Octets → Except Fault (Json × Octets)
  | 0, _, _, s => .error (.here .tooDeep s)
  | fuel + 1, depth, acc, s =>
    match nextItem acc.isEmpty s with
    | .error f => .error f
    | .ok none =>
      match closeList s with
      | (none, rest) => .ok (.array acc.reverse, rest)
      | (some f, _) => .error f
    | .ok (some s) =>
      match readValue fuel depth s with
      | .error f => .error f
      | .ok (j, rest) => readItems fuel depth (j :: acc) rest

/-- Reads the members of an object, after its brace, into `acc`. -/
def readMembers : (fuel depth : Nat) → (first : Bool) → (acc : Members) → Octets →
    Except Fault (Json × Octets)
  | 0, _, _, _, s => .error (.here .tooDeep s)
  | fuel + 1, depth, first, acc, s =>
    match nextKey first s with
    | .error f => .error f
    | .ok none =>
      match closeObject s with
      | (none, rest) => .ok (.object acc, rest)
      | (some f, _) => .error f
    | .ok (some s) =>
      match readString fuel s with
      | .error f => .error f
      | .ok (key, s) =>
        match readColon s with
        | .error f => .error f
        | .ok s =>
          match readValue fuel depth s with
          | .error f => .error f
          | .ok (j, rest) => readMembers fuel depth false (insertMember key j acc) rest

end

/-- Fuel that reading a text cannot use up. -/
def fuelFor (s : Octets) : Nat :=
  2 * s.length + 2

/-- Checks that only blanks follow. -/
def readEnd (s : Octets) : Except Fault Unit :=
  match skipBlanks s with
  | [] => .ok ()
  | rest => .error (.next .trailingText rest)

/-- The value that a text spells, with nothing but blanks around it. -/
def parse (s : Octets) : Except Fault Json := do
  let (j, rest) ← readValue (fuelFor s) maxDepth s
  readEnd rest
  return j

/-- The value that a text spells, if it is one. -/
def parse? (s : Octets) : Option Json :=
  (parse s).toOption

/-! ### Passing over values -/

/-- A container being passed over. -/
inductive Bracket where
  | list
  | object
  deriving DecidableEq

/-- The byte that closes a container. -/
def Bracket.closing : Bracket → UInt8
  | .list => 0x5D
  | .object => 0x7D

/-- What the end of the text inside a container is. -/
def Bracket.eof : Bracket → Cause
  | .list => .eofList
  | .object => .eofObject

/-- What anything but a comma or the end after an entry of a container is. -/
def Bracket.unended : Bracket → Cause
  | .list => .expectedListEnd
  | .object => .expectedObjectEnd

/-- Passes over a string, after its opening quotation mark. -/
def skipQuoted : (fuel : Nat) → Octets → Except Fault Octets
  | 0, s => .error (.here .eofString s)
  | _ + 1, [] => .error (.here .eofString [])
  | fuel + 1, b :: rest =>
    if b = 0x22 then .ok rest
    else if b = 0x5C then
      match rest with
      | [] => .error (.here .eofString [])
      | c :: rest =>
        if c = 0x75 then
          match readHexWord rest with
          | .ok (_, rest) => skipQuoted fuel rest
          | .error f => .error f
        else if [0x22, 0x5C, 0x2F, 0x62, 0x66, 0x6E, 0x72, 0x74].contains c then
          skipQuoted fuel rest
        else .error (.here .invalidEscape rest)
    else if b < 0x20 then .error (.here .controlCharacter (b :: rest))
    else skipQuoted fuel rest

/-- Passes over an exponent, after its letter. -/
def skipExponent (s : Octets) : Except Fault Octets :=
  let s :=
    match s with
    | 0x2B :: rest => rest
    | 0x2D :: rest => rest
    | _ => s
  match s with
  | [] => .error (.here .invalidNumber [])
  | b :: rest => if isDigit b then .ok (skipDigits rest) else .error (.here .invalidNumber rest)

/-- Passes over what follows the integer digits of a number. -/
def skipTail (s : Octets) : Except Fault Octets :=
  match s with
  | 0x2E :: rest =>
    let after := skipDigits rest
    if after.length = rest.length then .error (.next .invalidNumber rest)
    else
      match after with
      | 0x65 :: rest => skipExponent rest
      | 0x45 :: rest => skipExponent rest
      | _ => .ok after
  | 0x65 :: rest => skipExponent rest
  | 0x45 :: rest => skipExponent rest
  | _ => .ok s

/-- Passes over a number, after its sign. -/
def skipNumber (s : Octets) : Except Fault Octets :=
  match s with
  | [] => .error (.here .invalidNumber [])
  | b :: rest =>
    if b = 0x30 then
      match rest with
      | c :: _ => if isDigit c then .error (.next .invalidNumber rest) else skipTail rest
      | [] => skipTail rest
    else if isDigit b then skipTail (skipDigits rest)
    else .error (.here .invalidNumber rest)

mutual

/-- Passes over a value inside the containers of `around`, innermost first, and over what is left of
these containers. -/
def skipInside : (fuel : Nat) → (around : List Bracket) → Octets → Except Fault Octets
  | 0, _, s => .error (.here .tooDeep s)
  | fuel + 1, around, s =>
    match skipBlanks s with
    | [] => .error (.next .eofValue [])
    | b :: rest =>
      if b = 0x5B then skipEntries fuel false .list around rest
      else if b = 0x7B then skipEntries fuel false .object around rest
      else
        let scalar : Except Fault Octets :=
          if b = 0x6E then readWord (ascii "ull") rest
          else if b = 0x74 then readWord (ascii "rue") rest
          else if b = 0x66 then readWord (ascii "alse") rest
          else if b = 0x2D then skipNumber rest
          else if isDigit b then skipNumber (b :: rest)
          else if b = 0x22 then skipQuoted fuel rest
          else .error (.next .expectedValue (b :: rest))
        match scalar, around with
        | .error f, _ => .error f
        | .ok rest, [] => .ok rest
        | .ok rest, inner :: around => skipEntries fuel true inner around rest

/-- Passes over the entries that are left of the container `inner`, where `comma` says whether one
has been read, and then over what is left around it. -/
def skipEntries : (fuel : Nat) → (comma : Bool) → (inner : Bracket) → (around : List Bracket) →
    Octets → Except Fault Octets
  | 0, _, _, _, s => .error (.here .tooDeep s)
  | fuel + 1, comma, inner, around, s =>
    match skipBlanks s with
    | [] => .error (.next inner.eof [])
    | b :: rest =>
      if comma ∧ b = 0x2C then skipEntry fuel inner around rest
      else if b = inner.closing then
        match around with
        | [] => .ok rest
        | outer :: around => skipEntries fuel true outer around rest
      else if comma then .error (.next inner.unended (b :: rest))
      else skipEntry fuel inner around (b :: rest)

/-- Passes over one entry of the container `inner` and over what is left of it. -/
def skipEntry : (fuel : Nat) → (inner : Bracket) → (around : List Bracket) →
    Octets → Except Fault Octets
  | 0, _, _, s => .error (.here .tooDeep s)
  | fuel + 1, .list, around, s => skipInside fuel (.list :: around) s
  | fuel + 1, .object, around, s =>
    match skipBlanks s with
    | [] => .error (.next .eofObject [])
    | b :: rest =>
      if b = 0x22 then
        match skipQuoted fuel rest with
        | .error f => .error f
        | .ok rest =>
          match readColon rest with
          | .error f => .error f
          | .ok rest => skipInside fuel (.object :: around) rest
      else .error (.next .keyNotString (b :: rest))

end

/-- Passes over one value. A value takes up to three calls for its first byte. -/
def skipValue (fuel : Nat) (s : Octets) : Except Fault Octets :=
  skipInside (3 * fuel + 3) [] s

end Switchyard.Json
