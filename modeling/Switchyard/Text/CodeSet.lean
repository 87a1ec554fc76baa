/-!
# Sets of code points

A `CodeSet` keeps its members as ranges in increasing order, with a gap between any two of them.

* `ofRanges` makes a set of ranges in any order; `union`, `complement`, `inter`, `minus` and
  `symmetric` are the operations on sets.
* `ofLines` reads a set from a table. A table names ranges by their ends in hexadecimal, `61-7a`;
  a code point alone is a range of its own, and `100-12e/2` stands for every second code point.
-/

namespace Switchyard

/-- A set of code points, as its ranges in increasing order. -/
structure CodeSet where
  ranges : List (Nat × Nat)
  deriving DecidableEq, Inhabited

namespace CodeSet

/-- The largest code point. -/
def maxCode : Nat := 0x10ffff

/-! ### Building sets -/

/-- Joins ranges that overlap or touch. They come in the order of their first code points. -/
def join : List (Nat × Nat) → List (Nat × Nat)
  | (a, b) :: (c, d) :: rest =>
    if c ≤ b + 1 then join ((a, max b d) :: rest) else (a, b) :: join ((c, d) :: rest)
  | rs => rs
termination_by rs => rs.length

/-- The set of the code points of any of these ranges. -/
def ofRanges (rs : List (Nat × Nat)) : CodeSet :=
  ⟨join ((rs.filter fun (a, b) => a ≤ b).mergeSort fun r s => r.1 ≤ s.1)⟩

/-- No code point. -/
def empty : CodeSet := ⟨[]⟩

/-- Every code point. -/
def all : CodeSet := ⟨[(0, maxCode)]⟩

/-- One code point. -/
def single (n : Nat) : CodeSet := ⟨[(n, n)]⟩

/-- One range. -/
def range (low high : Nat) : CodeSet := ofRanges [(low, high)]

/-- These code points. -/
def ofCodes (ns : List Nat) : CodeSet := ofRanges (ns.map fun n => (n, n))

/-! ### Operations -/

/-- Whether a code point is in the set. -/
def contains (s : CodeSet) (n : Nat) : Bool :=
  s.ranges.any fun (a, b) => a ≤ n && n ≤ b

/-- Whether no code point is in the set. -/
def isEmpty (s : CodeSet) : Bool := s.ranges.isEmpty

/-- The code points of either set. -/
def union (s t : CodeSet) : CodeSet :=
  ⟨join (s.ranges.merge t.ranges fun r q => r.1 ≤ q.1)⟩

/-- The code points of any of these sets. -/
def unions (sets : List CodeSet) : CodeSet :=
  ofRanges (sets.flatMap (·.ranges))

/-- The ranges between those of a list, from a code point on. -/
def gaps (start : Nat) : List (Nat × Nat) → List (Nat × Nat)
  | [] => if start ≤ maxCode then [(start, maxCode)] else []
  | (a, b) :: rest =>
    if start < a then (start, a - 1) :: gaps (b + 1) rest else gaps (b + 1) rest

/-- The code points that are not in the set. -/
def complement (s : CodeSet) : CodeSet := ⟨gaps 0 s.ranges⟩

/-- The code points of both sets. -/
def inter (s t : CodeSet) : CodeSet :=
  complement (union (complement s) (complement t))

/-- The members from one code point to another. -/
def within (s : CodeSet) (low high : Nat) : CodeSet :=
  ⟨(s.ranges.map fun (a, b) => (max a low, min b high)).filter fun (a, b) => a ≤ b⟩

/-- The code points of the first set that are not in the second. -/
def minus (s t : CodeSet) : CodeSet := inter s (complement t)

/-- The code points of exactly one of the sets. -/
def symmetric (s t : CodeSet) : CodeSet := union (minus s t) (minus t s)

/-- Whether all members come before a code point. -/
def below (s : CodeSet) (n : Nat) : Bool := s.ranges.all fun r => r.2 < n

/-- The only member of the set, if it has one member. -/
def only? (s : CodeSet) : Option Nat :=
  match s.ranges with
  | [(a, b)] => if a = b then some a else none
  | _ => none

/-! ### Tables -/

/-- The value of a hexadecimal digit in lower case. -/
def hexDigit (c : Char) : Nat :=
  if c.isDigit then c.toNat - '0'.toNat else c.toNat - 'a'.toNat + 10

/-- The ranges of one entry, its first code point, its last one and the distance between those
it stands for. -/
def entry (low high step : Nat) : List (Nat × Nat) :=
  if step ≤ 1 then [(low, high)]
  else (List.range ((high - low) / step + 1)).map fun i => (low + step * i, low + step * i)

/-- The ranges of a line of a table. Of the entry that is being read, `low` and `high` are the
numbers before the latest one, which is `n` so far. -/
def readLine (low high : Option Nat) (n : Nat) (acc : List (List (Nat × Nat))) :
    List Char → List (List (Nat × Nat))
  | [] => (close low high n :: acc).reverse
  | c :: rest =>
    if c = ' ' then readLine none none 0 (close low high n :: acc) rest
    else if c = '-' then readLine (some n) none 0 acc rest
    else if c = '/' then readLine low (some n) 0 acc rest
    else readLine low high (16 * n + hexDigit c) acc rest
where
  /-- The ranges of the entry that ends here. -/
  close (low high : Option Nat) (n : Nat) : List (Nat × Nat) :=
    match low, high with
    | none, _ => [(n, n)]
    | some a, none => [(a, n)]
    | some a, some b => entry a b n

/-- The set that the lines of a table describe. -/
def ofLines (lines : List String) : CodeSet :=
  ofRanges (lines.flatMap fun line => (readLine none none 0 [] line.toList).flatten)

end CodeSet
end Switchyard
