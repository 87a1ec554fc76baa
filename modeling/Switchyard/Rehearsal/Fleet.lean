import Switchyard.Supervisor.Fleet

/-!
# Rehearsing supervised commands

A store of supervised commands, or of batches, with a clock that stands still until the end of one
of them is awaited.

This is the clock of a rehearsal. The stores themselves are those of the daemon.
-/

namespace Switchyard.Rehearsal

open Supervisor

/-- A store with a clock. -/
structure Fleet (σ ε : Type) where
  store : Store (Timed σ ε)
  now : Nat
  /-- The records that exit handlers were given. -/
  reports : List Record

namespace Fleet

variable {σ ε : Type}

/-- An empty store. -/
def start (capacity : Nat) : Fleet σ ε :=
  ⟨.empty capacity, 0, []⟩

/-- Lets time pass until the end of a record is reported, at most so many hundredths of a second. -/
def await (advance : Nat → Store (Timed σ ε) → Store (Timed σ ε) × List (Nat × Record))
    (id : String) : (fuel : Nat) → Fleet σ ε → Fleet σ ε
  | 0, f => f
  | fuel + 1, f =>
    if f.reports.any (·.id = id) then f
    else
      let (s, reports) := advance (f.now + 10) f.store
      await advance id fuel ⟨s, f.now + 10, f.reports ++ reports.map (·.2)⟩

/-- The record that the exit handler of an id was given. -/
def report? (id : String) (f : Fleet σ ε) : Option Record :=
  f.reports.find? (·.id = id)

end Fleet
end Switchyard.Rehearsal
