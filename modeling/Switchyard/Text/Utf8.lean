import Switchyard.Octets

/-!
# UTF-8

A byte-fed decoder for UTF-8, after the Unicode standard's table of well-formed sequences.

* `Utf8.Pending` is the decoder's state between two bytes, `feed` its step.
* `pieces` runs it over a byte run: a piece is a scalar value, or `none` for a maximal ill-formed
  part (the longest start of some well-formed sequence, or one byte that starts none).
* `decode?` accepts well-formed text only; `decodeLossy` puts U+FFFD for every ill-formed part.

The decoder holds no more than one unfinished character, so it can be run over pieces of a stream:
what it answers for a byte depends on the bytes since the last complete piece only.
-/

namespace Switchyard.Utf8

/-- The UTF-8 bytes of a text. -/
def encodeChars (s : List Char) : Octets :=
  s.flatMap String.utf8EncodeChar

/-- The UTF-8 bytes of a string. -/
def encode (s : String) : Octets :=
  encodeChars s.toList

/-- What the decoder holds between two bytes. -/
inductive Pending where
  /-- Nothing: the next byte starts a character. -/
  | idle
  /-- A character that lacks `need` more bytes, the next of them between `low` and `high`; `code`
  is what the bytes so far contribute to the scalar value. -/
  | inside (need : Nat) (low high : UInt8) (code : Nat)
  deriving DecidableEq

/-- How a byte that stands first in a character goes on. -/
def start (b : UInt8) : Pending × List (Option Char) :=
  if b < 0x80 then (.idle, [some (Char.ofNat b.toNat)])
  else if 0xC2 ≤ b ∧ b ≤ 0xDF then (.inside 1 0x80 0xBF (b.toNat - 0xC0), [])
  else if b = 0xE0 then (.inside 2 0xA0 0xBF 0, [])
  else if b = 0xED then (.inside 2 0x80 0x9F 13, [])
  else if 0xE1 ≤ b ∧ b ≤ 0xEF then (.inside 2 0x80 0xBF (b.toNat - 0xE0), [])
  else if b = 0xF0 then (.inside 3 0x90 0xBF 0, [])
  else if 0xF1 ≤ b ∧ b ≤ 0xF3 then (.inside 3 0x80 0xBF (b.toNat - 0xF0), [])
  else if b = 0xF4 then (.inside 3 0x80 0x8F 4, [])
  else (.idle, [none])

/-- One byte: the state after it and the pieces it completes. A byte that cannot continue the
character in progress ends it as ill-formed and is then taken as a first byte. -/
def feed (p : Pending) (b : UInt8) : Pending × List (Option Char) :=
  match p with
  | .idle => start b
  | .inside need low high code =>
    if low ≤ b ∧ b ≤ high then
      let code := code * 64 + (b.toNat - 0x80)
      if need ≤ 1 then (.idle, [some (Char.ofNat code)])
      else (.inside (need - 1) 0x80 0xBF code, [])
    else
      let (p, out) := start b
      (p, none :: out)

/-- What the end of the bytes completes. -/
def finish : Pending → List (Option Char)
  | .idle => []
  | .inside .. => [none]

/-- Runs the decoder from state `p` and adds its pieces to the reversed list `acc`. -/
def run (p : Pending) (acc : List (Option Char)) : Octets → List (Option Char)
  | [] => ((finish p).reverse ++ acc).reverse
  | b :: rest =>
    let (p, out) := feed p b
    run p (out.reverse ++ acc) rest

/-- The pieces of a byte run: scalar values, and `none` for each ill-formed part. -/
def pieces (s : Octets) : List (Option Char) :=
  run .idle [] s

/-- All pieces as characters, when none is ill-formed. -/
def wellFormed? (acc : List Char) : List (Option Char) → Option (List Char)
  | [] => some acc.reverse
  | some c :: rest => wellFormed? (c :: acc) rest
  | none :: _ => none

/-- The characters of well-formed bytes. -/
def decodeChars? (s : Octets) : Option (List Char) :=
  wellFormed? [] (pieces s)

/-- The string that well-formed bytes spell. -/
def decode? (s : Octets) : Option String :=
  (decodeChars? s).map String.ofList

/-- The string bytes spell, with U+FFFD in place of each ill-formed part. -/
def decodeLossy (s : Octets) : String :=
  String.ofList ((pieces s).map (·.getD '\ufffd'))

/-- Bytes a string takes in UTF-8. -/
def size (s : String) : Nat :=
  s.utf8ByteSize

end Switchyard.Utf8
