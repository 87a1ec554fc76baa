import Switchyard.Pattern.Size

/-!
# Programs for patterns

A pattern is compiled to a list of instructions that refer to each other by number. Where an
instruction goes on in two ways, the first way counts for more.

Instructions are appended while the pattern is walked from its end to its start, so a part is
compiled with the number of the instruction that follows it. Only a repetition goes back to an
instruction that is not there yet; it reserves a place and fills it afterwards.
-/

namespace Switchyard.Pattern

/-- One instruction. -/
inductive Inst where
  /-- Takes one character of a class. -/
  | char (c : CodeSet) (next : Nat)
  /-- Goes on if the condition holds. -/
  | look (l : Look) (next : Nat)
  /-- Goes on in two ways. -/
  | split (first second : Nat)
  /-- Notes the place in a slot. -/
  | save (slot next : Nat)
  /-- The text matches. -/
  | accept
  deriving Inhabited

/-- The instructions so far. -/
abbrev Code := Array Inst

/-- Appends an instruction and gives its number. -/
def emit (code : Code) (i : Inst) : Nat × Code :=
  (code.size, code.push i)

/-- A choice between going into a part and leaving it. -/
def choice (lazy : Bool) (into out : Nat) : Inst :=
  if lazy then .split out into else .split into out

/-- So many copies of a part in a row. -/
def copies (part : Nat → Code → Nat × Code) : Nat → Nat → Code → Nat × Code
  | 0, next, code => (next, code)
  | n + 1, next, code =>
    let (start, code) := part next code
    copies part n start code

/-- A part that is repeated as often as it goes, but at least once. Gives the number of its start
and of the choice at its end. -/
def loop (part : Nat → Code → Nat × Code) (lazy : Bool) (next : Nat) (code : Code) :
    Nat × Nat × Code :=
  let (again, code) := emit code .accept
  let (start, code) := part again code
  (start, again, code.setIfInBounds again (choice lazy start next))

/-- At most so many copies of a part in a row, each of them only after those before it. -/
def optionalCopies (part : Nat → Code → Nat × Code) (lazy : Bool) (next : Nat) :
    Nat → Nat → Code → Nat × Code
  | 0, after, code => (after, code)
  | n + 1, after, code =>
    let (start, code) := part after code
    let (entry, code) := emit code (choice lazy start next)
    optionalCopies part lazy next n entry code

/-- Compiles a pattern that goes on with the instruction `next`. -/
def compile : Pattern → (next : Nat) → Code → Nat × Code
  | empty, next, code => (next, code)
  | char c, next, code => emit code (.char c next)
  | look l, next, code => emit code (.look l next)
  | group n p, next, code =>
    let (close, code) := emit code (.save (2 * n + 1) next)
    let (start, code) := compile p close code
    emit code (.save (2 * n) start)
  | append a b, next, code =>
    let (second, code) := compile b next code
    compile a second code
  | either a b, next, code =>
    let (first, code) := compile a next code
    let (second, code) := compile b next code
    emit code (.split first second)
  | repeated p least (some most) lazy, next, code =>
    let (entry, code) := optionalCopies (compile p) lazy next (most - least) next code
    copies (compile p) least entry code
  | repeated p 0 none lazy, next, code =>
    let (start, again, code) := loop (compile p) lazy next code
    if 0 < minLength p then (again, code) else emit code (choice lazy start next)
  | repeated p (least + 1) none lazy, next, code =>
    let (start, _, code) := loop (compile p) lazy next code
    copies (compile p) least start code

/-- A compiled pattern. -/
structure Program where
  code : Code
  start : Nat
  /-- The largest number of a group; the whole match is group 0. -/
  groups : Nat
  deriving Inhabited

/-- The program of a pattern; none if the pattern is too large. -/
def program? (p : Pattern) : Option Program :=
  if p.fits then
    let (start, code) := compile (.group 0 p) 0 #[.accept]
    some ⟨code, start, groupCount p⟩
  else none

end Switchyard.Pattern
