/-!
# Octets

Runs of bytes, the one currency of every transport in this library: frames, bus messages, pipe
output and encoded JSON text are all `Octets`.

* Fixed-width numbers are written in big- or little-endian order and read back from the front.
* `hexDigits` spells bytes with two lower-case digits each; `ofHex?` reads such a spelling.
* `digest` is the 64-bit FNV-1a checksum, used to name long byte runs.
-/

namespace Switchyard

/-- A finite run of bytes. -/
abbrev Octets := List UInt8

namespace Octets

/-! ### Fixed-width numbers -/

/-- The `width` low bytes of `n`, least significant first. -/
def littleEndian : (width : Nat) → (n : Nat) → Octets
  | 0, _ => []
  | width + 1, n => UInt8.ofNat n :: littleEndian width (n / 256)

/-- The `width` low bytes of `n`, most significant first. -/
def bigEndian (width n : Nat) : Octets :=
  (littleEndian width n).reverse

/-- The number that bytes spell, least significant first. -/
def ofLittleEndian : Octets → Nat
  | [] => 0
  | b :: rest => b.toNat + 256 * ofLittleEndian rest

/-- The number that bytes spell, most significant first. -/
def ofBigEndian (s : Octets) : Nat :=
  s.foldl (fun n b => n * 256 + b.toNat) 0

/-- The first `n` bytes and the rest, when there are that many. -/
def splitExact? (n : Nat) (s : Octets) : Option (Octets × Octets) :=
  let head := s.take n
  if head.length = n then some (head, s.drop n) else none

/-! ### Hexadecimal spelling -/

/-- The lower-case digit of a number below sixteen. -/
def hexDigit (n : Nat) : Char :=
  if n < 10 then Char.ofNat ('0'.toNat + n) else Char.ofNat ('a'.toNat + (n - 10))

/-- The value of a hexadecimal digit, of either case. -/
def hexValue? (c : Char) : Option Nat :=
  if '0' ≤ c ∧ c ≤ '9' then some (c.toNat - '0'.toNat)
  else if 'a' ≤ c ∧ c ≤ 'f' then some (c.toNat - 'a'.toNat + 10)
  else if 'A' ≤ c ∧ c ≤ 'F' then some (c.toNat - 'A'.toNat + 10)
  else none

/-- Two lower-case digits for each byte. -/
def hexDigits (s : Octets) : List Char :=
  s.flatMap fun b => [hexDigit (b.toNat / 16), hexDigit (b.toNat % 16)]

/-- The bytes spelled by pairs of digits; blanks between digits are skipped. -/
def ofHex? (s : List Char) : Option Octets :=
  pairs (s.filter (· ≠ ' ')) []
where
  /-- Reads two digits at a time onto the reversed result. -/
  pairs : List Char → Octets → Option Octets
    | [], acc => some acc.reverse
    | [_], _ => none
    | a :: b :: rest, acc =>
      match hexValue? a, hexValue? b with
      | some x, some y => pairs rest (UInt8.ofNat (16 * x + y) :: acc)
      | _, _ => none

/-! ### Checksum -/

/-- The 64-bit FNV-1a checksum: each byte is mixed in by exclusive or, then by the FNV prime. -/
def digest (s : Octets) : UInt64 :=
  s.foldl (fun h b => (h ^^^ b.toUInt64) * 0x100000001b3) 0xcbf29ce484222325

end Octets
end Switchyard
