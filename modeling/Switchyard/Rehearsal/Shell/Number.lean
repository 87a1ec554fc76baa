import Switchyard.Json.Double
import Switchyard.Rehearsal.Shell.Escape

/-!
# Numbers as arguments

A number is read from the front of a text; what is left of the text is complained about, but the
number counts. Behind a quotation mark stands a character for its first byte.

* `readInteger` reads an integer, in octal after a zero and in hexadecimal after `0x`.
* `readReal` reads a fraction and rounds it to the mantissa that the command computes with.
* `fixed`, `scientific` and `compact` write fractions.

It is how children in rehearsals read and write numbers, and has nothing to do with the numbers of
the daemon's data formats.
-/

namespace Switchyard.Rehearsal.Shell.Number

/-- What is wrong with a text for a number. -/
inductive Trouble where
  | noNumber
  | partly
  | outOfRange
  /-- More than one character behind a quotation mark. -/
  | tooMany (rest : String)

/-- The complaint about a text. -/
def Trouble.complaint (kind : Kind) (text : String) : Trouble → String
  | noNumber =>
    match kind with
    | .builtin => text ++ ": expected numeric value"
    | .program => "'" ++ text ++ "': expected a numeric value"
  | partly =>
    match kind with
    | .builtin => text ++ ": not completely converted"
    | .program => "'" ++ text ++ "': value not completely converted"
  | outOfRange =>
    match kind with
    | .builtin => text ++ ": Numerical result out of range"
    | .program => "'" ++ text ++ "': Numerical result out of range"
  | tooMany rest =>
    "warning: " ++ rest ++ ": character(s) following character constant have been ignored"

/-- The exit code after a complaint. -/
def Trouble.status : Trouble → Nat
  | tooMany _ => 0
  | _ => 1

/-- The sign of a number and what follows it and the blanks before it. -/
def takeSign (s : List Char) : Bool × List Char :=
  match s.dropWhile Char.isWhitespace with
  | '-' :: rest => (true, rest)
  | '+' :: rest => (false, rest)
  | rest => (false, rest)

/-- The value of the character behind a quotation mark, if a text begins with one. -/
def quoted? (kind : Kind) (text : String) : Option (Nat × Option Trouble) :=
  match text.toList with
  | mark :: rest =>
    if mark ≠ '\'' ∧ mark ≠ '"' then none
    else
      match Utf8.encodeChars rest, kind with
      | [], .builtin => some (0, none)
      | [], .program => none
      | b :: _, .builtin => some (b.toNat, none)
      | [b], .program => some (b.toNat, none)
      | b :: _, .program => some (b.toNat, some (.tooMany (String.ofList (rest.drop 1))))
  | [] => none

/-- What is wrong with a text of which this part is left, if anything is. -/
def leftover (text : String) (found : Bool) (rest : List Char) : Option Trouble :=
  if text.isEmpty || (found && rest.isEmpty) then none
  else if found then some .partly
  else some .noNumber

/-! ### Integers -/

/-- The digits of an integer without a sign, with their base, and what follows them. -/
def takeDigits (s : List Char) : Nat × List Char × List Char :=
  let digits (base : Nat) (s : List Char) : Nat × List Char × List Char :=
    let found := s.takeWhile fun c => (Octets.hexValue? c).any (· < base)
    (base, found, s.drop found.length)
  match s with
  | '0' :: x :: d :: rest =>
    if (x = 'x' ∨ x = 'X') ∧ Escape.isHex d then digits 16 (d :: rest) else digits 8 s
  | '0' :: _ => digits 8 s
  | s => digits 10 s

/-- Reads an integer of 64 bits; a negative one without a sign counts from the other end. -/
def readInteger (kind : Kind) (signed : Bool) (text : String) : Int × Option Trouble :=
  match quoted? kind text with
  | some (n, trouble) => (n, trouble)
  | none =>
    let (negative, s) := takeSign text.toList
    let (base, digits, rest) := takeDigits s
    let n := Escape.number base digits
    let trouble := leftover text (!digits.isEmpty) rest
    if signed then
      if negative then
        if 0x8000000000000000 < n then (-0x8000000000000000, some .outOfRange)
        else (-(n : Int), trouble)
      else if 0x7fffffffffffffff < n then (0x7fffffffffffffff, some .outOfRange)
      else (n, trouble)
    else if 0xffffffffffffffff < n then (0xffffffffffffffff, some .outOfRange)
    else (if negative then (0x10000000000000000 - n : Int) % 0x10000000000000000 else n, trouble)

/-! ### Fractions -/

/-- The magnitude of a number: a quotient, or none of them. -/
inductive Magnitude where
  | ratio (num den : Nat)
  | infinite
  | undefined

/-- How many bits the mantissa of a fraction has. -/
def mantissaBits : Kind → Nat
  | .builtin => 53
  | .program => 64

/-- The nearest quotient with a mantissa of so many bits. -/
def rounded (bits num den : Nat) : Nat × Nat :=
  if num = 0 then (0, 1)
  else
    let down := Nat.log2 num + 1
    let up := Nat.log2 den + bits + 1
    let (num, den) := (num * Nat.pow 2 up, den * Nat.pow 2 down)
    let extra := Nat.log2 (num / den) + 1 - bits
    let mantissa := Double.roundDiv num (den * Nat.pow 2 extra)
    (mantissa * Nat.pow 2 (extra + down), Nat.pow 2 up)

/-- The largest exponent of ten that is computed with. -/
def maxExponent : Nat := 5000

/-- Takes an exponent of ten; without digits there is none. -/
def takeExponent (s : List Char) : Int × List Char :=
  match s with
  | e :: rest =>
    let (negative, after) :=
      match rest with
      | '-' :: rest => (true, rest)
      | '+' :: rest => (false, rest)
      | rest => (false, rest)
    let digits := after.takeWhile Char.isDigit
    if (e = 'e' ∨ e = 'E') ∧ !digits.isEmpty then
      let n : Int := min (Escape.number 10 digits) (maxExponent + 1)
      (if negative then -n else n, after.drop digits.length)
    else (0, s)
  | [] => (0, [])

/-- Takes the magnitude of a decimal fraction. -/
def takeFraction (s : List Char) : Option (Magnitude × Bool × List Char) :=
  let whole := s.takeWhile Char.isDigit
  let (part, rest) :=
    match s.drop whole.length with
    | '.' :: rest =>
      let part := rest.takeWhile Char.isDigit
      (part, rest.drop part.length)
    | rest => ([], rest)
  if (whole ++ part).isEmpty then none
  else
    let (exponent, rest) := takeExponent rest
    let n := Escape.number 10 (whole ++ part)
    let power := Nat.pow 10 exponent.natAbs
    if n = 0 then some (.ratio 0 1, true, rest)
    else if maxExponent < exponent.natAbs then
      some (if exponent < 0 then .ratio 0 1 else .infinite, false, rest)
    else if exponent < 0 then some (.ratio n (Nat.pow 10 part.length * power), true, rest)
    else some (.ratio (n * power) (Nat.pow 10 part.length), true, rest)

/-- Takes a word that stands for no quotient. -/
def takeWord (s : List Char) : Option (Magnitude × List Char) :=
  [("infinity", Magnitude.infinite), ("inf", .infinite), ("nan", .undefined)].findSome?
    fun (word, m) =>
      if word.toList.isPrefixOf (s.map Char.toLower) then some (m, s.drop word.length) else none

/-- Reads a fraction: whether it is negative, its magnitude, and what is wrong. -/
def readReal (kind : Kind) (text : String) : Bool × Magnitude × Option Trouble :=
  match quoted? kind text with
  | some (n, trouble) => (false, .ratio n 1, trouble)
  | none =>
    let (negative, s) := takeSign text.toList
    match takeWord s, takeDigits s with
    | some (m, rest), _ => (negative, m, leftover text true rest)
    | none, (16, digits, rest) =>
      (negative, .ratio (Escape.number 16 digits) 1, leftover text true rest)
    | none, _ =>
      match takeFraction s with
      | none => (false, .ratio 0 1, leftover text false s)
      | some (.ratio num den, inRange, rest) =>
        let (num, den) := rounded (mantissaBits kind) num den
        (negative, .ratio num den, if inRange then leftover text true rest else some .outOfRange)
      | some (m, _, _) => (negative, m, some .outOfRange)

/-! ### Writing fractions -/

/-- Digits with a point before the last so many of them. -/
def withPoint (point : Bool) (places n : Nat) : List Char :=
  let digits := Nat.toDigits 10 n
  let digits := List.replicate (places + 1 - digits.length) '0' ++ digits
  let whole := digits.take (digits.length - places)
  whole ++ (if point || 0 < places then ['.'] else []) ++ digits.drop whole.length

/-- A quotient with so many places behind the point. -/
def fixed (point : Bool) (places num den : Nat) : List Char :=
  withPoint point places (Double.roundDiv (num * Nat.pow 10 places) den)

/-- A quotient as one digit before the point, so many behind it, and an exponent of ten. -/
def normalized (places num den : Nat) : Nat × Int :=
  if num = 0 then (0, 0)
  else
    let e := Double.leadingExponent num den
    let shift := (places : Int) - e
    let n :=
      if 0 ≤ shift then Double.roundDiv (num * Nat.pow 10 shift.toNat) den
      else Double.roundDiv num (den * Nat.pow 10 (-shift).toNat)
    if n < Nat.pow 10 (places + 1) then (n, e) else (n / 10, e + 1)

/-- An exponent of ten of at least two digits. -/
def exponentText (e : Int) : List Char :=
  let digits := Nat.toDigits 10 e.natAbs
  'e' :: (if e < 0 then '-' else '+') :: List.replicate (2 - digits.length) '0' ++ digits

/-- A quotient with an exponent. -/
def scientific (point : Bool) (places num den : Nat) : List Char :=
  let (n, e) := normalized places num den
  withPoint point places n ++ exponentText e

/-- Leaves out zeros behind a point, and a point behind which nothing is left. -/
def trimmed (s : List Char) : List Char :=
  if s.contains '.' then
    match s.reverse.dropWhile (· = '0') with
    | '.' :: rest => rest.reverse
    | rest => rest.reverse
  else s

/-- A quotient with so many digits that count, with an exponent if it is far from one. -/
def compact (point : Bool) (digits num den : Nat) : List Char :=
  let digits := max digits 1
  let (n, e) := normalized (digits - 1) num den
  let trim := if point then id else trimmed
  if -4 ≤ e ∧ e < digits then trim (fixed point (digits - 1 - e).toNat num den)
  else trim (withPoint point (digits - 1) n) ++ exponentText e

end Switchyard.Rehearsal.Shell.Number
