import Switchyard.Text.Word

/-!
# Patterns

Regular expressions over characters, as they are read from a pattern text.

* A `Look` is a condition on the place between two characters.
* A `Pattern` tells what to match and which parts to capture. Of several ways to match at one
  place the first in order counts: left branches before right ones, and more repetitions before
  fewer unless the repetition is lazy.
-/

namespace Switchyard

/-- Places that a word decides. -/
inductive WordPlace where
  /-- Between a character of a word and one of none, or not so. -/
  | edge | noEdge
  /-- Where a word starts or ends. -/
  | start | finish
  /-- Where no word goes on to the left, or none to the right. -/
  | startHalf | finishHalf
  deriving DecidableEq

/-- A condition on a place in a text. -/
inductive Look where
  /-- The start or the end of the text. -/
  | textStart | textEnd
  /-- The start or the end of a line. -/
  | lineStart | lineEnd
  /-- The same where a carriage return also ends a line. -/
  | lineStartReturn | lineEndReturn
  /-- A place that a word decides; only a wide one counts characters beyond ASCII as parts of
  words. -/
  | word (wide : Bool) (place : WordPlace)
  deriving DecidableEq

namespace Look

/-- Whether there is a character and it can stand in a word. -/
def inWord (wide : Bool) (c : Option Char) : Bool :=
  c.any fun c => Text.isWord c && (wide || c.toNat < 0x80)

/-- Whether a place between two characters is one that a word decides. -/
def holdsInWord (wide : Bool) (before after : Option Char) : WordPlace → Bool
  | .edge => inWord wide before != inWord wide after
  | .noEdge => inWord wide before == inWord wide after
  | .start => !inWord wide before && inWord wide after
  | .finish => inWord wide before && !inWord wide after
  | .startHalf => !inWord wide before
  | .finishHalf => !inWord wide after

/-- Whether the condition holds between two characters; `none` stands for the end of the text. -/
def holds (before after : Option Char) : Look → Bool
  | textStart => before.isNone
  | textEnd => after.isNone
  | lineStart => before.all (· = '\n')
  | lineEnd => after.all (· = '\n')
  | lineStartReturn =>
    before.all (· = '\n') || (before = some '\r' && after ≠ some '\n')
  | lineEndReturn =>
    after.all (· = '\r') || (after = some '\n' && before ≠ some '\r')
  | word wide place => holdsInWord wide before after place

end Look

/-- What to match. -/
inductive Pattern where
  /-- Nothing: the empty text. -/
  | empty
  | char (c : CodeSet)
  | look (l : Look)
  /-- Captures what the part matches, under a number. -/
  | group (number : Nat) (p : Pattern)
  /-- One after the other. -/
  | append (a b : Pattern)
  /-- The first, or else the second. -/
  | either (a b : Pattern)
  /-- At least `least` times and at most so often, or any number of times; as often as possible
  unless it is lazy. -/
  | repeated (p : Pattern) (least : Nat) (most : Option Nat) (lazy : Bool)
  deriving Inhabited

namespace Pattern

/-- The fewest characters that a match has. -/
def minLength : Pattern → Nat
  | empty | look _ => 0
  | char _ => 1
  | group _ p => minLength p
  | append a b => minLength a + minLength b
  | either a b => min (minLength a) (minLength b)
  | repeated p least _ _ => least * minLength p

/-- Whether every match is empty. -/
def alwaysEmpty : Pattern → Bool
  | empty | look _ => true
  | char _ => false
  | group _ p => alwaysEmpty p
  | append a b => alwaysEmpty a && alwaysEmpty b
  | either a b => alwaysEmpty a && alwaysEmpty b
  | repeated p _ most _ => alwaysEmpty p || most == some 0

/-- A repetition. Repeating a part that matches nothing but the empty text more than once adds
nothing. -/
def times (p : Pattern) (least : Nat) (most : Option Nat) (lazy : Bool) : Pattern :=
  let (least, most) :=
    if alwaysEmpty p then (min least 1, some (min (most.getD 1) 1)) else (least, most)
  if most = some 0 then empty
  else if least = 1 ∧ most = some 1 then p
  else repeated p least most lazy

/-- The largest number of a group. -/
def groupCount : Pattern → Nat
  | empty | look _ | char _ => 0
  | group n p => max n (groupCount p)
  | append a b | either a b => max (groupCount a) (groupCount b)
  | repeated p .. => groupCount p

end Pattern
end Switchyard
