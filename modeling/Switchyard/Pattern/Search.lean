import Switchyard.Pattern.Program

/-!
# Searching a text

The program runs over the text once. At every place it has a list of threads, the one that counts
most first; two threads at one instruction would go on alike, so only the first is kept.

* `follow` takes a thread through all instructions that take no character.
* `advance` moves the threads over one character. A thread that accepts ends those behind it, and
  no thread starts at a later place once one has accepted.
-/

namespace Switchyard.Pattern

/-- The places that were noted; a place is the number of characters before it. -/
abbrev Slots := Array (Option Nat)

/-- An instruction to go on with, and the places noted on the way to it. -/
structure Thread where
  inst : Nat
  slots : Slots

/-- The threads at one place, the last one first, and which instructions they stand at. -/
structure Threads where
  threads : List Thread
  seen : Array Bool

/-- A place in the text. -/
structure Place where
  index : Nat
  before : Option Char
  after : Option Char

/-- Takes the first of the waiting threads through instructions that take no character, until none
waits. Each instruction is looked at once, so fuel for twice their number is enough. -/
def follow (code : Code) (place : Place) : (fuel : Nat) → List Thread → Threads → Threads
  | 0, _, ts => ts
  | _, [], ts => ts
  | fuel + 1, t :: waiting, ts =>
    if (ts.seen[t.inst]?).getD true then follow code place fuel waiting ts
    else
      let ts := { ts with seen := ts.seen.setIfInBounds t.inst true }
      match code[t.inst]? with
      | none => follow code place fuel waiting ts
      | some (.split a b) =>
        follow code place fuel ({ t with inst := a } :: { t with inst := b } :: waiting) ts
      | some (.look l next) =>
        if l.holds place.before place.after then
          follow code place fuel ({ t with inst := next } :: waiting) ts
        else follow code place fuel waiting ts
      | some (.save slot next) =>
        let slots := t.slots.setIfInBounds slot (some place.index)
        follow code place fuel (⟨next, slots⟩ :: waiting) ts
      | some (.char ..) | some .accept =>
        follow code place fuel waiting { ts with threads := t :: ts.threads }

/-- No thread. -/
def noThreads (code : Code) : Threads :=
  ⟨[], Array.replicate code.size false⟩

/-- Adds a thread behind the others. -/
def addThread (code : Code) (place : Place) (t : Thread) (ts : Threads) : Threads :=
  follow code place (2 * code.size + 1) [t] ts

/-- What the threads, the first one first, come to: those after the next character, and the slots of
the one that accepts, if any. -/
def advance (code : Code) (c : Option Char) (next : Place) :
    List Thread → Threads → Threads × Option Slots
  | [], ts => (ts, none)
  | t :: rest, ts =>
    match code[t.inst]? with
    | some .accept => (ts, some t.slots)
    | some (.char cls target) =>
      if c.any fun c => cls.contains c.toNat then
        advance code c next rest (addThread code next ⟨target, t.slots⟩ ts)
      else advance code c next rest ts
    | _ => advance code c next rest ts

/-- Goes over the text with threads at the place before it. -/
def scan (p : Program) (best : Option Slots) (index : Nat) (ts : Threads) :
    List Char → Option Slots
  | [] =>
    match advance p.code none ⟨index + 1, none, none⟩ ts.threads.reverse (noThreads p.code) with
    | (_, some slots) => some slots
    | (_, none) => best
  | c :: rest =>
    let next : Place := ⟨index + 1, some c, rest.head?⟩
    let (moved, accepted) := advance p.code c next ts.threads.reverse (noThreads p.code)
    let best := accepted.or best
    if moved.threads.isEmpty ∧ best.isSome then best
    else
      let moved :=
        if best.isSome then moved else addThread p.code next ⟨p.start, fresh p⟩ moved
      scan p best (index + 1) moved rest
where
  /-- Slots without any place. -/
  fresh (p : Program) : Slots := Array.replicate (2 * p.groups + 2) none

/-- The slots of the first match in a text. -/
def search? (p : Program) (text : List Char) : Option Slots :=
  let place : Place := ⟨0, none, text.head?⟩
  scan p none 0 (addThread p.code place ⟨p.start, scan.fresh p⟩ (noThreads p.code)) text

/-- The parts of a text that the first match captures, the whole match first; `none` for a group
that took no part. -/
def captures? (p : Program) (text : List Char) : Option (List (Option String)) :=
  (search? p text).map fun slots =>
    (List.range (p.groups + 1)).map fun g =>
      match (slots[2 * g]?).join, (slots[2 * g + 1]?).join with
      | some low, some high => some (String.ofList ((text.drop low).take (high - low)))
      | _, _ => none

end Switchyard.Pattern
