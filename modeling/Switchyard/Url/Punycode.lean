import Switchyard.Octets

/-!
# Text in letters and digits

Names are sent in ASCII. A text with other characters is written as its ASCII characters, a hyphen,
and one number for each other character: how far to count until it is inserted, when the count goes
through all places of the text for one code point before it goes on to the next code point.

Numbers have digits of 36, the last significant one first. A digit below a threshold ends its
number; the thresholds follow the size of the numbers before (`bias`).
-/

namespace Switchyard.Url.Punycode

/-- How many digits there are. -/
def base : Nat := 36

/-- The first code point that is not written as itself. -/
def firstCoded : Nat := 0x80

/-- The bias before the first number. -/
def firstBias : Nat := 72

/-- The largest number that is read. -/
def largest : Nat := 0xffffffff

/-- The digit of a value. -/
def digit (n : Nat) : Char :=
  Char.ofNat (if n < 26 then 'a'.toNat + n else '0'.toNat + (n - 26))

/-- The value of a digit. -/
def digitValue? (c : Char) : Option Nat :=
  if c.isLower then some (c.toNat - 'a'.toNat)
  else if c.isUpper then some (c.toNat - 'A'.toNat)
  else if c.isDigit then some (c.toNat - '0'.toNat + 26)
  else none

/-- Below what the digit at a place ends its number; places go up by 36. -/
def threshold (bias place : Nat) : Nat :=
  if place ≤ bias then 1 else if bias + 26 ≤ place then 26 else place - bias

/-- Divides by 35 until the rest is small; 36 is added to `k` each time. -/
def reduce (delta k : Nat) : Nat × Nat :=
  if 455 < delta then reduce (delta / 35) (k + base) else (delta, k)
termination_by delta
decreasing_by omega

/-- The bias after a number, for a text of so many characters. -/
def adapt (delta count : Nat) (first : Bool) : Nat :=
  let delta := if first then delta / 700 else delta / 2
  let (delta, k) := reduce (delta + delta / count) 0
  k + base * delta / (delta + 38)

theorem threshold_bounds (bias place : Nat) :
    1 ≤ threshold bias place ∧ threshold bias place ≤ 26 := by
  unfold threshold
  split
  · omega
  · split <;> omega

/-! ### Writing -/

/-- The digits of a number. -/
def writeNumber (bias place n : Nat) : List Char :=
  let t := threshold bias place
  if n < t then [digit n]
  else digit (t + (n - t) % (base - t)) :: writeNumber bias (place + base) ((n - t) / (base - t))
termination_by n
decreasing_by
  have := threshold_bounds bias place
  have : (n - threshold bias place) / (base - threshold bias place) ≤ n - threshold bias place :=
    Nat.div_le_self ..
  omega

/-- How far a text is written. -/
structure Writer where
  /-- The count since the last number. -/
  delta : Nat
  bias : Nat
  /-- How many characters have been written. -/
  count : Nat
  /-- The digits, in reverse. -/
  digits : List Char

/-- Goes past a character while the count is at a code point. -/
def Writer.pass (code plain : Nat) (w : Writer) (c : Char) : Writer :=
  if c.toNat < code then { w with delta := w.delta + 1 }
  else if c.toNat = code then
    ⟨0, adapt w.delta (w.count + 1) (w.count = plain), w.count + 1,
      (writeNumber w.bias base w.delta).reverse ++ w.digits⟩
  else w

/-- Writes the characters of these code points, which are in order; the count is at `next`. -/
def writeCodes (s : List Char) (plain : Nat) : (next : Nat) → List Nat → Writer → Writer
  | _, [], w => w
  | next, code :: codes, w =>
    let start := { w with delta := w.delta + (code - next) * (w.count + 1) }
    let w := s.foldl (Writer.pass code plain) start
    writeCodes s plain (code + 1) codes { w with delta := w.delta + 1 }

/-- Writes a text in ASCII. -/
def encode (s : List Char) : List Char :=
  let (plain, others) := s.partition (·.toNat < firstCoded)
  let codes := ((others.map Char.toNat).mergeSort fun a b => a ≤ b).eraseDups
  let w := writeCodes s plain.length firstCoded codes ⟨0, firstBias, plain.length, []⟩
  plain ++ (if plain.isEmpty then [] else ['-']) ++ w.digits.reverse

/-! ### Reading -/

/-- Reads a number and adds it to a count; `weight` is the value of one at the place. -/
def readNumber? (bias place weight count : Nat) : List Char → Option (Nat × List Char)
  | [] => none
  | c :: rest =>
    match digitValue? c with
    | none => none
    | some d =>
      let t := threshold bias place
      let count := count + d * weight
      if largest < count then none
      else if d < t then some (count, rest)
      else if largest < weight * (base - t) then none
      else readNumber? bias (place + base) (weight * (base - t)) count rest

theorem readNumber?_length {bias place weight count : Nat} {s rest : List Char} {n : Nat}
    (h : readNumber? bias place weight count s = some (n, rest)) : rest.length < s.length := by
  induction s generalizing place weight count with
  | nil => simp [readNumber?] at h
  | cons c s ih =>
    unfold readNumber? at h
    split at h
    · simp at h
    · simp only at h
      split at h
      · simp at h
      · split at h
        · simp at h
          simp [h.2]
        · split at h
          · simp at h
          · have := ih h
            simp
            omega

/-- Reads numbers and inserts their characters into a text; the count is at a code point and at a
place of the text. -/
def readCodes? (code place bias : Nat) (text s : List Char) : Option (List Char) :=
  match s with
  | [] => some text
  | c :: s =>
    match h : readNumber? bias base 1 place (c :: s) with
    | none => none
    | some (n, rest) =>
      let size := text.length + 1
      let code := code + n / size
      if 0x10ffff < code ∨ (0xd800 ≤ code ∧ code < 0xe000) then none
      else
        have : rest.length < s.length + 1 := readNumber?_length h
        readCodes? code (n % size + 1) (adapt (n - place) size (place = 0))
          (text.insertIdx (n % size) (Char.ofNat code)) rest
termination_by s.length

/-- Reads a text that is written in ASCII. -/
def decode? (s : List Char) : Option (List Char) :=
  let coded := (s.reverse.takeWhile (· ≠ '-')).reverse
  let plain := s.take (s.length - coded.length - 1)
  if plain.isEmpty then readCodes? firstCoded 0 firstBias [] s
  else readCodes? firstCoded 0 firstBias plain coded

end Switchyard.Url.Punycode
