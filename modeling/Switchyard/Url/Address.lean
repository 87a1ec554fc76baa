import Switchyard.Octets

/-!
# Addresses in URLs

* An address of eight groups is written between brackets. `parseGroups?` reads it: one run of zero
  groups may be left out, and the last two groups may be written as four decimal numbers.
  `renderGroups` writes it with the longest run of zero groups left out, the first of several.
* `isNumeric` tells whether a name ends in a number, `parseFour?` reads such a name as an address of
  four bytes. A number may be written in octal or hexadecimal, and the last one fills the bytes that
  are left.
-/

namespace Switchyard.Url

/-- The number that digits spell; none if one of them is no digit of the base. -/
def numberOf? (base : Nat) (s : List Char) : Option Nat :=
  s.foldl (fun n c => do
    let n ← n
    let d ← Octets.hexValue? c
    if d < base then some (n * base + d) else none) (some 0)

/-! ### Eight groups -/

/-- One decimal number below 256 without a needless zero. -/
def decimalByte? (s : List Char) : Option Nat :=
  match s with
  | [] => none
  | ['0'] => some 0
  | '0' :: _ => none
  | s => (numberOf? 10 s).bind fun n => if n < 256 then some n else none

/-- Four decimal numbers as two groups. -/
def decimalGroups? (s : List Char) : Option (Nat × Nat) :=
  match (s.splitOn '.').mapM decimalByte? with
  | some [a, b, c, d] => some (a * 256 + b, c * 256 + d)
  | _ => none

/-- Reads groups after those of `acc`, which are in reverse; `none` among them stands for the run
that is left out. There are at most eight, that run included. -/
def groupsAfter : (fuel : Nat) → (acc : List (Option Nat)) → List Char →
    Option (List (Option Nat))
  | _, acc, [] => some acc.reverse
  | 0, _, _ => none
  | fuel + 1, acc, s =>
    if acc.length = 8 then none
    else
      match s with
      | ':' :: rest => if acc.contains none then none else groupsAfter fuel (none :: acc) rest
      | s =>
        let digits := (s.take 4).takeWhile fun c => (Octets.hexValue? c).isSome
        match s.drop digits.length with
        | [] => some ((numberOf? 16 digits :: acc).reverse)
        | '.' :: _ =>
          if digits.isEmpty ∨ 6 < acc.length then none
          else (decimalGroups? s).map fun (a, b) => (some b :: some a :: acc).reverse
        | ':' :: rest =>
          if rest.isEmpty then none else groupsAfter fuel (numberOf? 16 digits :: acc) rest
        | _ => none

/-- The eight groups, with zeros for the run that is left out. -/
def fillGroups (groups : List (Option Nat)) : Option (List Nat) :=
  if groups.contains none then
    if 8 < groups.length then none
    else some (groups.flatMap fun
      | some g => [g]
      | none => List.replicate (9 - groups.length) 0)
  else if groups.length = 8 then some (groups.filterMap id)
  else none

/-- Reads an address of eight groups. -/
def parseGroups? (s : List Char) : Option (List Nat) :=
  match s with
  | ':' :: ':' :: rest => (groupsAfter (rest.length + 1) [none] rest).bind fillGroups
  | ':' :: _ | [] | [_] => none
  | s => (groupsAfter (s.length + 1) [] s).bind fillGroups

/-- The length of the run of zeros that a list starts with. -/
def zeroRun (groups : List Nat) : Nat :=
  (groups.takeWhile (· = 0)).length

/-- Where the longest run of zeros starts, the first of several, and its length. -/
def longestRun (groups : List Nat) : Nat × Nat :=
  (List.range groups.length).foldl (fun best i =>
    let n := zeroRun (groups.drop i)
    if best.2 < n then (i, n) else best) (0, 0)

/-- The digits of a group. -/
def renderGroup (g : Nat) : String :=
  String.ofList ((Nat.toDigits 16 g))

/-- The text of an address of eight groups. One zero alone is not left out. -/
def renderGroups (groups : List Nat) : String :=
  let joined (gs : List Nat) := ":".intercalate (gs.map renderGroup)
  let (start, n) := longestRun groups
  if n < 2 then joined groups
  else joined (groups.take start) ++ "::" ++ joined (groups.drop (start + n))

/-! ### Four bytes -/

/-- The number of a label: `none` if it is no number, `some none` if it is too large. -/
def labelNumber? (s : List Char) : Option (Option Nat) :=
  let number (base : Nat) (digits : List Char) : Option (Option Nat) :=
    if digits.isEmpty then some (some 0)
    else (numberOf? base digits).map fun n => if n < 0x100000000 then some n else none
  match s with
  | [] => none
  | '0' :: 'x' :: digits | '0' :: 'X' :: digits => number 16 digits
  | '0' :: d :: digits => number 8 (d :: digits)
  | digits => number 10 digits

/-- The labels of a name without an empty one at the end. -/
def properLabels (s : List Char) : List (List Char) :=
  match (s.splitOn '.').reverse with
  | [] :: rest => rest.reverse
  | parts => parts.reverse

/-- Whether a name ends in a number. -/
def isNumeric (s : List Char) : Bool :=
  match (properLabels s).getLast? with
  | none => false
  | some last => (!last.isEmpty && last.all Char.isDigit) || (labelNumber? last).isSome

/-- Reads an address of four bytes. -/
def parseFour? (s : List Char) : Option Nat :=
  let parts := properLabels s
  if 4 < parts.length then none
  else
    match (parts.mapM labelNumber?).map List.reverse with
    | some (some last :: front) =>
      match front.reverse.mapM id with
      | some front =>
        if front.all (· < 256) && last < Nat.pow 256 (4 - front.length) then
          some (front.foldl (fun n b => n * 256 + b) 0 * Nat.pow 256 (4 - front.length) + last)
        else none
      | none => none
    | _ => none

end Switchyard.Url
