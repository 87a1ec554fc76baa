import Switchyard.Supervisor.CommandLine
import Switchyard.Json.Reader

/-!
# Watching several commands as one

The commands of a batch share one record. A worker starts the children and looks at them in turn
until the end of each is recorded; a starter waits for its word and then stores the record; whoever
polls sees the record as it is between two steps. A `Batch` is their common state and a `BatchEvent`
one step of the worker or the starter.

* The output of a child that exited with 0 is delivered as a result under the child's number: an
  empty object if there was nothing but blanks, else the JSON document that it spells. Other output
  and other children give no result.
* The result handler adds to the record what it makes of a result, one entry after another, before
  the worker goes on.
* The record is finished when every end is recorded, with the largest exit code. A wait that fails
  counts as `-1`. The report, which the exit handler makes, comes after that and once.
-/

namespace Switchyard.Supervisor

/-- What one look at a child shows. -/
inductive Look where
  | ended (status : ExitStatus)
  | failed (e : IoError)
  /-- It runs, and this is the time after that was seen. -/
  | running (time : Nat)

/-- Whether a look ends the loop. -/
def settles (deadline : Option Nat) : Look → Bool
  | .running time => expired deadline time
  | .ended _ | .failed _ => true

/-- How far the worker of a batch is. -/
inductive BatchStage where
  /-- The children have not been started. -/
  | begun
  /-- Not all children could be started, or the worker was lost, and the starter knows it. -/
  | refused (e : StartError)
  /-- The children were started, and the starter was told so. -/
  | running
  /-- The record is finished. -/
  | finished
  /-- The exit handler has run. -/
  | reported
  deriving DecidableEq

/-- The state of a batch. -/
structure Batch where
  /-- What the result handler adds for a child's number and its result, when the record is as it is
  then. -/
  react : Nat → Json → Record → List Json
  record : Record
  /-- The recorded end of each child. -/
  ends : List (Option Int)
  /-- The results that were delivered, with the numbers of their children. -/
  results : List (Nat × Json)
  /-- What the result handler has yet to add. -/
  adds : List Json
  stage : BatchStage
  /-- Whether the starter has stored the record. -/
  stored : Bool
  /-- The records that the exit handler was given. -/
  reports : List Record

/-- A step of one party. -/
inductive BatchEvent where
  /-- The worker tries to start the children, and starts so many. -/
  | spawn (result : Except StartError Nat)
  /-- The starter stores the record. -/
  | store
  /-- The worker looks at a child; `stdout` is all it wrote. -/
  | look (child : Nat) (l : Look) (stdout : Octets)
  /-- The result handler adds an entry. -/
  | add
  /-- The worker finishes the record. -/
  | finish
  /-- The worker runs the exit handler. -/
  | report

/-- A blank in the output of a command. -/
def isBlank (b : UInt8) : Bool :=
  b = 32 ∨ b = 9 ∨ b = 10 ∨ b = 12 ∨ b = 13

/-- The result that the output of a successful child gives. -/
def result? (stdout : Octets) : Option Json :=
  if stdout.all isBlank then some (.object []) else Json.parse? stdout

namespace Batch

/-- A batch that is about to be started. -/
def start (id : String) (react : Nat → Json → Record → List Json) : Batch :=
  ⟨react, .start id, [], [], [], .begun, false, []⟩

/-- Whether the children have been started. -/
def started (b : Batch) : Bool :=
  match b.stage with
  | .begun | .refused _ => false
  | _ => true

/-- Delivers a result. -/
def deliver (child : Nat) (j : Json) (b : Batch) : Batch :=
  { b with results := b.results ++ [(child, j)], adds := b.react child j b.record }

/-- Notes the end of a child and delivers its result, if it has one. -/
def note (child : Nat) (code : Int) (stdout : Octets) (b : Batch) : Batch :=
  let b := { b with ends := b.ends.set child (some code) }
  if code = 0 then
    match result? stdout with
    | some j => b.deliver child j
    | none => b
  else b

/-- The exit code of the batch. -/
def retval (b : Batch) : Int :=
  ((b.ends.filterMap id).max?).getD 0

/-- Whether the worker looks at its children. -/
def watches (b : Batch) : Bool :=
  b.stage = .running && b.adds.isEmpty

/-- One step, where it is possible. -/
def step (b : Batch) : BatchEvent → Option Batch
  | .spawn (.ok n) =>
    if b.stage = .begun then some { b with stage := .running, ends := List.replicate n none }
    else none
  | .spawn (.error e) => if b.stage = .begun then some { b with stage := .refused e } else none
  | .store => if b.started ∧ ¬b.stored then some { b with stored := true } else none
  | .look child l stdout =>
    if b.watches ∧ b.ends[child]? = some none then
      match l with
      | .ended status => some (b.note child status.toCode stdout)
      | .failed _ => some { b with ends := b.ends.set child (some (-1)) }
      | .running _ => some b
    else none
  | .add =>
    match b.adds with
    | [] => none
    | j :: rest => some { b with adds := rest, record := b.record.append j }
  | .finish =>
    if b.watches ∧ b.ends.all Option.isSome then
      some { b with stage := .finished, record := b.record.finish b.retval }
    else none
  | .report =>
    if b.stage = .finished then
      some { b with stage := .reported, reports := b.reports ++ [b.record] }
    else none

/-- All steps of a list; one that is not possible changes nothing. -/
def steps (b : Batch) (events : List BatchEvent) : Batch :=
  events.foldl (fun b e => (b.step e).getD b) b

/-- The result handler has added all its entries. -/
def settle (b : Batch) : Batch :=
  { b with adds := [], record := b.record.appendAll b.adds }

/-- One step, and all that the result handler has to add after it. -/
def stepThrough (b : Batch) (e : BatchEvent) : Option Batch :=
  (b.step e).map settle

/-! ### The worker's rounds -/

/-- What a look at a child gives. -/
structure Sight (α : Type) where
  look : Look
  /-- All that the child writes to its output, if it has ended. -/
  stdout : Octets
  /-- The time after the look. -/
  time : Nat
  /-- The child as the next look finds it. -/
  child : α

/-- One round of looks at the numbered children that have no recorded end. Also gives the time after
the round and the children that still run. -/
def round {α : Type} (sight : Nat → α → Sight α) (time : Nat) : List (Nat × α) →
    List (Nat × BatchEvent) × Nat × List (Nat × α)
  | [] => ([], time, [])
  | (child, c) :: rest =>
    let s := sight time c
    let (events, after, left) := round sight s.time rest
    ((s.time, .look child s.look s.stdout) :: events, after,
      if settles none s.look then left else (child, s.child) :: left)

/-- Rounds until no child is left, or as many as the fuel allows. -/
def rounds {α : Type} (sight : Nat → α → Sight α) : (fuel : Nat) → (time : Nat) →
    List (Nat × α) → List (Nat × BatchEvent)
  | 0, time, _ => [(time, .finish), (time, .report)]
  | fuel + 1, time, children =>
    let (events, after, left) := round sight time children
    if left.isEmpty then events ++ [(after, .finish), (after, .report)]
    else events ++ rounds sight fuel (after + lookInterval) left

/-- Children with their numbers. -/
def numbered {α : Type} (children : List α) : List (Nat × α) :=
  (List.range children.length).zip children

/-! ### Children whose conduct is known -/

/-- A look at a child. Reading the output of one that has ended may take time. -/
def sightOf (time : Nat) (c : Conduct) : Sight Conduct :=
  if c.ends ≤ time then ⟨.ended c.status, c.written .output, max time c.closed, c⟩
  else ⟨.running time, [], time, c⟩

/-- The steps for a batch, with their times, after its children were started and its record stored.
The child that ends last bounds the rounds. -/
def schedule (children : List Conduct) : List (Nat × BatchEvent) :=
  let last := (children.map (·.ends)).foldl max 0
  rounds sightOf (last / lookInterval + 2) 0 (numbered children)

end Batch
end Switchyard.Supervisor
