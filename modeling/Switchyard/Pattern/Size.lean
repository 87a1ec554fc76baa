import Switchyard.Pattern.Basic

/-!
# How large a pattern is

A pattern is refused if the automaton for it would take too much room. The automaton reads UTF-8
octets, and there are two of them, one for each direction; neither may take more than `limit`
octets.

* A state takes `stateSize` octets and more for every way on from it.
* A set of characters is a tree of ranges of octets (`OctetRanges`). Reading forwards, equal
  subtrees are kept once; reading backwards, each branch of the tree is a state.
* A choice between plain texts shares what the texts begin with.
* Repetitions with a count are written out.
-/

namespace Switchyard.Pattern

/-! ### Sets of characters as octets -/

/-- The octets of some characters: a range for the first one, for the second one, and so on. -/
abbrev OctetRanges := List (Nat × Nat)

/-- So many octets that continue a character, each of them any. -/
def anyContinuation (n : Nat) : OctetRanges := List.replicate n (0x80, 0xbf)

/-- The octets of the characters of a range whose numbers fit in so many continuing octets after a
first one, which adds `mark` to its part of the number. -/
def octetRanges (mark : Nat) : (continuing : Nat) → (low high : Nat) → List OctetRanges
  | 0, low, high => [[(mark + low, mark + high)]]
  | n + 1, low, high =>
    let unit := Nat.pow 64 (n + 1)
    let first := low / unit
    let last := high / unit
    let under (lead : Nat) (rest : List OctetRanges) : List OctetRanges :=
      rest.map ((mark + lead, mark + lead) :: ·)
    if first = last then under first (octetRanges 0x80 n (low % unit) (high % unit))
    else
      let fromStart := low % unit = 0
      let toEnd := high % unit = unit - 1
      let whole := (if fromStart then first else first + 1, if toEnd then last + 1 else last)
      (if fromStart then [] else under first (octetRanges 0x80 n (low % unit) (unit - 1))) ++
      (if whole.1 < whole.2 then
        [(mark + whole.1, mark + (whole.2 - 1)) :: anyContinuation (n + 1)] else []) ++
      (if toEnd then [] else under last (octetRanges 0x80 n 0 (high % unit)))

/-- The characters that take equally many octets: their range, the mark of the first octet and the
number of octets after it. Surrogates are left out. -/
def lengthClasses : List (Nat × Nat × Nat × Nat) :=
  [(0, 0x7f, 0, 0), (0x80, 0x7ff, 0xc0, 1), (0x800, 0xd7ff, 0xe0, 2), (0xe000, 0xffff, 0xe0, 2),
   (0x10000, 0x10ffff, 0xf0, 3)]

/-- The octets of the characters of a set. -/
def setOctets (s : CodeSet) : List OctetRanges :=
  s.ranges.flatMap fun (low, high) =>
    lengthClasses.flatMap fun (first, last, mark, continuing) =>
      if max low first ≤ min high last then
        octetRanges mark continuing (max low first) (min high last)
      else []

/-- The tails of those that begin alike and stand side by side. -/
def branches : List OctetRanges → List ((Nat × Nat) × List OctetRanges)
  | [] => []
  | [] :: rest => branches rest
  | (r :: tail) :: rest =>
    match branches rest with
    | (q, tails) :: more =>
      if r = q then (q, tail :: tails) :: more else (r, [tail]) :: (q, tails) :: more
    | [] => [(r, [tail])]

/-- The nodes of the tree, each as what can follow it. -/
def nodes : (depth : Nat) → List OctetRanges → List (List OctetRanges)
  | 0, _ => []
  | depth + 1, rs =>
    rs :: (branches rs).flatMap fun (_, tails) =>
      if tails.all (·.isEmpty) then [] else nodes depth tails

/-! ### Sizes -/

/-- What a state takes. -/
def stateSize : Nat := 32

/-- What a way on from a state takes that can go on in several ways. -/
def wayOnSize : Nat := 4

/-- What a way on takes that reads an octet. -/
def readingSize : Nat := 8

/-- The room that an automaton may take. -/
def limit : Nat := 0xa00000

/-- The direction in which an automaton reads. -/
inductive Direction where
  | forwards | backwards
  deriving DecidableEq

/-- The size of a set of characters. -/
def setSize (d : Direction) (s : CodeSet) : Nat :=
  if (s.only?).isSome then stateSize * ((setOctets s).map (·.length)).foldl max 0
  else if s.below 0x80 then 2 * stateSize + readingSize * s.ranges.length
  else
    let octets := setOctets s
    let all := nodes 4 octets
    match d with
    | .forwards =>
      all.eraseDups.foldl (fun n node => n + stateSize + readingSize * (branches node).length)
        stateSize
    | .backwards =>
      all.foldl (fun n node => n + stateSize * (branches node).length)
        (2 * stateSize + wayOnSize * octets.length)

/-- The octets of a plain text. -/
def plainOctets? : Pattern → Option OctetRanges
  | char s => if (s.only?).isSome then (setOctets s).head? else none
  | append a b =>
    match plainOctets? a, plainOctets? b with
    | some x, some y => some (x ++ y)
    | _, _ => none
  | _ => none

/-- The texts that begin with one octet, without it, in the order of the octets. -/
def sortByFirst (texts : List OctetRanges) : List OctetRanges :=
  texts.mergeSort fun x y => (x.head?.map (·.1)).getD 0 ≤ (y.head?.map (·.1)).getD 0

/-- The size of a choice between plain texts, without its end. -/
def textsSize : (depth : Nat) → List OctetRanges → Nat
  | 0, _ => 0
  | depth + 1, texts =>
    let ways := branches (sortByFirst texts)
    let reading := if ways.length = 1 then 0 else readingSize * ways.length
    ways.foldl (fun n (_, tails) =>
      let longer := tails.filter fun t => !t.isEmpty
      if longer.isEmpty then n else n + textsSize depth longer)
      (2 * stateSize + reading + wayOnSize)

/-- The alternatives of a choice. -/
def alternatives : Pattern → List Pattern
  | either a b => alternatives a ++ alternatives b
  | p => [p]

/-- The set of characters that a choice amounts to, if all alternatives are single characters or
all are sets. -/
def oneOf? (ps : List Pattern) : Option CodeSet :=
  let sets := ps.filterMap fun p => match p with
    | char s => some s
    | _ => none
  if sets.length = ps.length ∧
      (sets.all (fun s => (s.only?).isSome) ∨ sets.all (fun s => (s.only?).isNone)) then
    some (.unions sets)
  else none

/-- The size of a choice of which the alternatives add up to `parts`. -/
def choiceSize (d : Direction) (ps : List Pattern) (parts : Nat) : Nat :=
  match oneOf? ps with
  | some s => setSize d s
  | none =>
    let texts := ps.filterMap plainOctets?
    if texts.length = ps.length then
      let texts := if d = .forwards then texts else texts.map List.reverse
      stateSize + textsSize (texts.foldl (fun n t => max n t.length) 0) texts
    else 2 * stateSize + wayOnSize * ps.length + parts

/-- The size of a repetition of a part of size `n`. -/
def repetitionSize (n : Nat) (canBeEmpty : Bool) (least : Nat) (most : Option Nat) : Nat :=
  let option := stateSize + 2 * wayOnSize
  match least, most with
  | 0, some 1 => n + option + stateSize
  | 0, none => if canBeEmpty then n + 2 * option + stateSize else n + option
  | least, none => least * n + option
  | least, some most =>
    if least = most then least * n
    else (if least = 0 then stateSize else least * n) + stateSize + (most - least) * (n + option)

/-- What a part of a pattern takes, nothing for an empty one, and what its alternatives take
together. -/
def partSizes (d : Direction) : Pattern → Nat × Nat
  | empty => alone 0
  | char s => alone (setSize d s)
  | look _ => alone stateSize
  | group _ p =>
    alone (max stateSize (partSizes d p).1 + (if d = .forwards then 2 * stateSize else 0))
  | append a b => alone ((partSizes d a).1 + (partSizes d b).1)
  | either a b =>
    let together := (partSizes d a).2 + (partSizes d b).2
    (choiceSize d (alternatives (either a b)) together, together)
  | repeated p least most _ =>
    alone (repetitionSize (max stateSize (partSizes d p).1) (minLength p = 0) least most)
where
  /-- The sizes of a part that is no choice. -/
  alone (n : Nat) : Nat × Nat := (n, max stateSize n)

/-- The size of the automaton for a pattern, with the part that finds where a match begins. -/
def size (d : Direction) (p : Pattern) : Nat :=
  let ends := if d = .forwards then 3 * stateSize else stateSize
  max stateSize (partSizes d p).1 + ends + 3 * stateSize + 2 * wayOnSize + readingSize

/-- Whether a pattern is small enough. -/
def fits (p : Pattern) : Bool :=
  size .forwards p ≤ limit && size .backwards p ≤ limit

end Switchyard.Pattern
