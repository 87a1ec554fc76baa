import Switchyard.Supervisor.Batch
import Switchyard.Supervisor.Start
import Switchyard.Supervisor.Watch

/-!
# Supervised commands over time

A fleet is a store of commands or batches that are started, run by themselves while time passes, and
are looked up by the id of their record.

* `startCommand` and `startBatch` start one and store it; a start that fails leaves the store as it
  was.
* `advance` performs all steps that are due.
-/

namespace Switchyard.Supervisor

/-- A state and the steps that are still to come, in the order of their times. -/
structure Timed (σ ε : Type) where
  state : σ
  due : List (Nat × ε)

namespace Timed

variable {σ ε : Type}

/-- Performs the steps of a list up to some time; one that is not possible changes nothing. -/
def perform (step : σ → ε → Option σ) (now : Nat) (s : σ) : List (Nat × ε) → Timed σ ε
  | [] => ⟨s, []⟩
  | (time, e) :: rest =>
    if time ≤ now then perform step now ((step s e).getD s) rest else ⟨s, (time, e) :: rest⟩

/-- The time of the last step that is due. -/
def lastDue (now : Nat) (t : Timed σ ε) : Nat :=
  ((t.due.takeWhile (·.1 ≤ now)).getLast?.map (·.1)).getD 0

end Timed

/-- Commands that are supervised one by one. -/
abbrev Commands := Store (Timed Watch Event)

/-- Commands that are supervised in batches. -/
abbrev Batches := Store (Timed Batch BatchEvent)

/-- Performs what is due in every entry of a store. Also gives the reports that were made, with
their times. -/
def advance {σ ε : Type} (step : σ → ε → Option σ) (reports : σ → List Record) (now : Nat)
    (s : Store (Timed σ ε)) : Store (Timed σ ε) × List (Nat × Record) :=
  let moved := s.made.map fun t => Timed.perform step now t.state t.due
  let made := (s.made.zip moved).flatMap fun (old, new) =>
    ((reports new.state).drop (reports old.state).length).map fun r => (old.lastDue now, r)
  ({ s with made := moved }, made)

/-- What became of a start. -/
structure Start (α : Type) where
  store : Store α
  /-- Whether the hook that runs before the first child is started has run. -/
  hooked : Bool
  /-- What was done to children, in order. -/
  deeds : List Deed
  result : Except StartError Unit

/-- Stores what has started; a start that failed leaves the store as it is. -/
def Attempt.stored {α β : Type} (entry : β → α) (s : Store α) (a : Attempt β) : Start α :=
  match a.result with
  | .error e => ⟨s, a.hooked, a.deeds, .error e⟩
  | .ok started => ⟨s.add (entry started), a.hooked, a.deeds, .ok ()⟩

/-- Steps some time later. -/
def later {ε : Type} (now : Nat) (due : List (Nat × ε)) : List (Nat × ε) :=
  due.map fun (time, e) => (now + time, e)

/-- The steps of a command that was started. There are none when the worker, which cannot make a
reader for the output, ends right after its word: the record stays as it is. -/
def watched (host : Host) (limit : Option Nat) (c : Conduct) : List (Nat × Event) :=
  match host.reader with
  | .error _ => []
  | .ok () => Watch.schedule limit c

/-- Starts a command under an id and stores it. -/
def startCommand (host : Host) (root : Option String) (id : String) (args : List String)
    (handlers : List LineHandler) (limit : Option Nat) (now : Nat) (s : Commands) :
    Start (Timed Watch Event) :=
  let entry (c : Conduct) : Timed Watch Event :=
    ⟨(Watch.start id handlers).steps [.spawn (.ok ()), .store],
      later now (watched host limit c)⟩
  (beginCommand host root args).stored entry s

/-- Starts a batch under an id and stores it. Each result adds one entry to the record. -/
def startBatch (host : Host) (root : Option String) (id : String) (commands : List (List String))
    (entry : Nat → Json → Json) (now : Nat) (s : Batches) : Start (Timed Batch BatchEvent) :=
  let react (child : Nat) (j : Json) (_ : Record) := [entry child j]
  let entry (children : List Conduct) : Timed Batch BatchEvent :=
    ⟨(Batch.start id react).steps [.spawn (.ok children.length), .store],
      later now (Batch.schedule children)⟩
  (beginBatch host root commands).stored entry s

/-- The record of a stored command. -/
def Commands.poll? (id : String) (s : Commands) : Option Record :=
  (s.find? (·.state.record.id) id).map (·.state.record)

/-- The record of a stored batch. -/
def Batches.poll? (id : String) (s : Batches) : Option Record :=
  (s.find? (·.state.record.id) id).map (·.state.record)

/-- Performs what is due in commands. -/
def Commands.advance (now : Nat) (s : Commands) : Commands × List (Nat × Record) :=
  Supervisor.advance Watch.stepThrough Watch.reports now s

/-- Performs what is due in batches. -/
def Batches.advance (now : Nat) (s : Batches) : Batches × List (Nat × Record) :=
  Supervisor.advance Batch.stepThrough Batch.reports now s

end Switchyard.Supervisor
