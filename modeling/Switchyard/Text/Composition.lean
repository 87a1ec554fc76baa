import Switchyard.Text.Combining
import Switchyard.Text.Composites

/-!
# Composed texts

Texts that differ only in how letters and marks are put together are the same; `composed` gives the
form of them in which as much as possible is one character.

* `parts` takes a character apart as far as it goes.
* `ordered` sorts marks that do not touch each other by their classes.
* `join` puts a character together with the last one that begins anew, unless a mark between them
  stands in the way.

Syllables of Hangul are computed: each is one of 19 leading consonants, one of 21 vowels, and
perhaps one of 27 trailing consonants.
-/

namespace Switchyard.Text

/-! ### Syllables of Hangul -/

namespace Hangul

/-- The first leading consonant, vowel and syllable, and the code point before the first trailing
consonant. -/
def leadBase : Nat := 0x1100
def vowelBase : Nat := 0x1161
def trailBase : Nat := 0x11a7
def syllableBase : Nat := 0xac00

/-- How many vowels there are, and how many trails, none included. -/
def vowelCount : Nat := 21
def trailCount : Nat := 28

/-- How many syllables there are. -/
def syllableCount : Nat := 19 * vowelCount * trailCount

/-- Whether a code point is a syllable. -/
def isSyllable (n : Nat) : Bool :=
  syllableBase ≤ n && n < syllableBase + syllableCount

/-- The letters of a syllable. -/
def letters (n : Nat) : List Nat :=
  let i := n - syllableBase
  let trail := i % trailCount
  [leadBase + i / trailCount / vowelCount, vowelBase + i / trailCount % vowelCount] ++
    if trail = 0 then [] else [trailBase + trail]

/-- The syllable of a consonant and a vowel, or of a syllable and a trailing consonant. -/
def syllable? (a b : Nat) : Option Nat :=
  if leadBase ≤ a ∧ a < leadBase + 19 ∧ vowelBase ≤ b ∧ b < vowelBase + vowelCount then
    some (syllableBase + ((a - leadBase) * vowelCount + (b - vowelBase)) * trailCount)
  else if isSyllable a ∧ (a - syllableBase) % trailCount = 0 ∧ trailBase < b ∧
      b < trailBase + trailCount then
    some (a + (b - trailBase))
  else none

end Hangul

/-! ### Taking apart -/

/-- How often a part of a character can have parts itself. -/
def deepest : Nat := 8

/-- The characters that a code point is made of; `fuel` counts the steps. -/
def partsWithin : (fuel : Nat) → Nat → List Nat
  | 0, n => [n]
  | fuel + 1, n =>
    if Hangul.isSyllable n then Hangul.letters n
    else
      match composites.find? n with
      | some parts => parts.flatMap (partsWithin fuel)
      | none => [n]

/-- The characters that a character is made of. -/
def parts (c : Char) : List Char :=
  (partsWithin deepest c.toNat).map Char.ofNat

/-! ### Sorting marks -/

/-- Puts marks in the order of their classes; `marks` are those since the last character that
begins anew, with their classes. -/
def orderedFrom (marks : List (Nat × Char)) : List Char → List Char
  | [] => sorted marks
  | c :: rest =>
    let k := combiningClass c
    if k = 0 then sorted marks ++ c :: orderedFrom [] rest
    else orderedFrom (marks ++ [(k, c)]) rest
where
  /-- Marks in the order of their classes; those of one class keep theirs. -/
  sorted (marks : List (Nat × Char)) : List Char :=
    (marks.mergeSort fun a b => a.1 ≤ b.1).map (·.2)

/-- A text with its marks in the order of their classes. -/
def ordered (s : List Char) : List Char :=
  orderedFrom [] s

/-! ### Putting together -/

/-- One character for two. -/
def joined? (a b : Char) : Option Char :=
  ((Hangul.syllable? a.toNat b.toNat).or (composites.source? [a.toNat, b.toNat])).map Char.ofNat

/-- Puts the characters of an ordered text together. `base` is the last one that begins anew, and
`marks` what has been kept behind it, in reverse. A mark stands in the way of another one of its
class, and any character stands in the way of one that begins anew. -/
def joinFrom (base : Char) (marks : List Char) : List Char → List Char
  | [] => base :: marks.reverse
  | c :: rest =>
    let k := combiningClass c
    let free := marks.head?.all fun m => combiningClass m < k
    match if free then joined? base c else none with
    | some whole => joinFrom whole marks rest
    | none =>
      if k = 0 then base :: marks.reverse ++ joinFrom c [] rest else joinFrom base (c :: marks) rest

/-- Puts the characters of an ordered text together. -/
def join : List Char → List Char
  | [] => []
  | c :: rest => if combiningClass c = 0 then joinFrom c [] rest else c :: join rest

/-- The form of a text in which as much as possible is one character. -/
def composed (s : List Char) : List Char :=
  if s.all (·.toNat < 0x80) then s else join (ordered (s.flatMap parts))

end Switchyard.Text
