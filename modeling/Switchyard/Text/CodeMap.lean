import Switchyard.Text.CodeSet

/-!
# Maps of code points

A `CodeMap` gives for some code points what they stand for, as lines of text with the first code
point of each. A line holds entries in the order of their code points, in hexadecimal:

* `ab>3c.4d,5e` lists what `ab` and the code points after it stand for: 3c and 4d, then 5e;
* `41-5a>61` and `100-12e/2>101` shift all code points, or every second one, of a range;
* `1c4-1c6=64.17e` gives the same for a whole range, and `ad=` gives nothing at all.

No entry reaches into the next one, so what a code point stands for is in the last line that begins
at it or before it. `find?` looks there, `source?` looks everywhere the other way round.
-/

namespace Switchyard

/-- A map of code points, as its lines with the first code point of each. -/
abbrev CodeMap := List (Nat × String)

namespace CodeMap

/-- What the code points of an entry stand for. -/
inductive Values where
  /-- One text for each. -/
  | each (texts : List (List Nat))
  /-- This code point for the first one, and for the others one as far behind it. -/
  | shift (first : Nat)
  /-- The same for all. -/
  | all (text : List Nat)
  deriving DecidableEq

/-- An entry: from where to where it reaches, and how far apart its code points are. -/
structure Entry where
  low : Nat
  high : Nat
  step : Nat
  values : Values
  deriving DecidableEq

/-- What a code point stands for by an entry. -/
def Entry.find? (e : Entry) (n : Nat) : Option (List Nat) :=
  if n < e.low ∨ e.high < n ∨ (n - e.low) % e.step ≠ 0 then none
  else
    match e.values with
    | .each texts => texts[n - e.low]?
    | .shift first => some [first + (n - e.low)]
    | .all text => some text

/-- The first code point that stands for a text by an entry. -/
def Entry.source? (e : Entry) (text : List Nat) : Option Nat :=
  ((List.range (e.high - e.low + 1)).map (e.low + ·)).find? fun n => e.find? n = some text

/-! ### Reading lines -/

/-- A number in hexadecimal. -/
def readNumber (s : List Char) : Nat :=
  s.foldl (fun n c => 16 * n + CodeSet.hexDigit c) 0

/-- Code points with points between them. -/
def readText (s : List Char) : List Nat :=
  if s.isEmpty then [] else (s.splitOn '.').map readNumber

/-- The ends of a range and the distance between its members. -/
def readRange (s : List Char) : Nat × Nat × Nat :=
  match (s.splitOn '/').map fun part => (part.splitOn '-').map readNumber with
  | [[low, high], [step]] => (low, high, step)
  | [[low, high]] => (low, high, 1)
  | parts =>
    let n := (parts.head?.bind List.head?).getD 0
    (n, n, 1)

/-- An entry of a line. -/
def readEntry (s : List Char) : Entry :=
  let key := s.takeWhile fun c => c ≠ '>' ∧ c ≠ '='
  let value := s.drop (key.length + 1)
  let (low, high, step) := readRange key
  if s[key.length]? = some '=' then ⟨low, high, step, .all (readText value)⟩
  else if key.contains '-' then ⟨low, high, step, .shift (readNumber value)⟩
  else
    let texts := (value.splitOn ',').map readText
    ⟨low, low + texts.length - 1, 1, .each texts⟩

/-- The entries of a line. -/
def readLine (line : String) : List Entry :=
  (line.toList.splitOn ' ').map readEntry

/-! ### Looking up -/

/-- What a code point stands for. -/
def find? (m : CodeMap) (n : Nat) : Option (List Nat) :=
  match (m.takeWhile (·.1 ≤ n)).getLast? with
  | some (_, line) => (readLine line).findSome? (·.find? n)
  | none => none

/-- The first code point that stands for a text. -/
def source? (m : CodeMap) (text : List Nat) : Option Nat :=
  m.findSome? fun (_, line) => (readLine line).findSome? (·.source? text)

end CodeMap
end Switchyard
