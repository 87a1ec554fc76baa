import Switchyard.Lock.Basic

/-!
# Running until nothing moves

`settle` lets the parties of a lock go on until none of them can: each is between two sections, in a
section that it keeps, asleep, or before a permit that is taken. All parties move at one speed: in
every round each of them takes one step, so a party that is woken first is also further on first. Of
several sleepers that can be woken, the first in the list is taken.

This is one of the orders in which the parties may move, the one that rehearsals use. Results about
the lock are about all orders.
-/

namespace Switchyard.Lock.State

/-- The first party that waits for a permit to be given back. -/
def firstSleeper (permit : Permit) (s : State) : Option Nat :=
  s.parties.findIdx? (·.awaits permit)

/-- Whom a party wakes next. -/
def choice (s : State) : Stage → Option Nat
  | .passed | .opened => s.firstSleeper .gate
  | .yielded => s.firstSleeper .turn
  | _ => none

/-- Whether a party rests: it does not wait, and its section is over or is kept. -/
def rests (keeps : Bool) : Stage → Bool
  | .idle => true
  | .reading | .writing => keeps
  | _ => false

/-- A step of the party in a place, if it does not rest and can go on. -/
def goOn (keeps : Nat → Bool) (i : Nat) (s : State) : Option State :=
  match s.parties[i]? with
  | some p => if rests (keeps i) p.stage then none else s.step (.go i (s.choice p.stage))
  | none => none

/-- A step of each party in these places that can go on, one after another; `none` if none can. -/
def round (keeps : Nat → Bool) : List Nat → State → Option State
  | [], _ => none
  | i :: rest, s =>
    match s.goOn keeps i with
    | some t => some ((round keeps rest t).getD t)
    | none => round keeps rest s

/-- At most so many rounds. -/
def settleWithin (keeps : Nat → Bool) : (fuel : Nat) → State → State
  | 0, s => s
  | fuel + 1, s =>
    match s.round keeps (List.range s.parties.length) with
    | some t => settleWithin keeps fuel t
    | none => s

/-- Rounds until nothing moves. A party has at most thirteen stages, and goes back to sleep at most
once for every party that wakes it. -/
def settle (keeps : Nat → Bool) (s : State) : State :=
  settleWithin keeps (32 * (s.parties.length + 1) * (s.parties.length + 1)) s

/-- Lets one more party start on a section. -/
def join (mode : Mode) (s : State) : State :=
  let p := match mode with | .read => Stage.entering | .write => Stage.queueing
  { s with parties := s.parties ++ [⟨p, false, []⟩] }

end Switchyard.Lock.State
