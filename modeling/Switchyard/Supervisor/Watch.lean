import Switchyard.Supervisor.CommandLine

/-!
# Watching one command

Four parties share the record of a supervised command: the worker that starts it and waits for it,
the reader of its output, the starter that waits for the worker's word and then stores the record,
and whoever polls. A `Watch` is their common state and an `Event` one step of one of the first
three; `step` is undefined where the step is not possible. Polling changes nothing, and shows the
record as it is between two steps.

* The reader takes output when it has shown all lines that it had before, and shows each line to
  each handler in a step of its own. A handler adds its results one by one. A read that fails ends
  the reading and drops the unfinished line.
* The record is finished only after the child has been reaped and the reader has stopped.
* The report, which the exit handler makes, comes after that and once.
* Nothing orders the starter's storing of the record against the worker's steps.

`schedule` is the order in which the steps come for a command whose conduct is known, when no party
is ever late. The reader's own steps are not among them: `stepThrough` lets it work off its tasks
after each other step.
-/

namespace Switchyard.Supervisor

/-- How far the worker is. -/
inductive Stage where
  /-- The child has not been started. -/
  | begun
  /-- The child could not be started, or the worker was lost, and the starter knows it. -/
  | refused (e : StartError)
  /-- The child was started, and the starter was told so. -/
  | running
  /-- The child was waited for; the output may still be read. -/
  | reaped (retval : Int)
  /-- The record is finished. -/
  | finished
  /-- The exit handler has run. -/
  | reported
  deriving DecidableEq

/-- The state of one supervised command. -/
structure Watch where
  handlers : List LineHandler
  record : Record
  /-- The bytes of the unfinished line, in reverse. -/
  line : Octets
  /-- Whether the output is still read. -/
  reading : Bool
  /-- What the reader has to do before it goes on reading. -/
  tasks : List Task
  stage : Stage
  /-- Whether the starter has stored the record. -/
  stored : Bool
  /-- The records that the exit handler was given. -/
  reports : List Record

/-- A step of one party. -/
inductive Event where
  /-- The worker tries to start the child. -/
  | spawn (result : Except StartError Unit)
  /-- The starter stores the record. -/
  | store
  /-- The reader gets output. -/
  | output (s : Octets)
  /-- The reader gets to the end of the output. -/
  | outputEnd
  /-- The reader fails to read. -/
  | outputLost
  /-- The reader performs its next task. -/
  | work
  /-- The worker has waited for the child; `-1` stands for a wait that failed. -/
  | reap (retval : Int)
  /-- The worker finishes the record. -/
  | finish
  /-- The worker runs the exit handler. -/
  | report

namespace Watch

/-- A command that is about to be started. -/
def start (id : String) (handlers : List LineHandler) : Watch :=
  ⟨handlers, .start id, [], true, [], .begun, false, []⟩

/-- Whether the child has been started. -/
def started (w : Watch) : Bool :=
  match w.stage with
  | .begun | .refused _ => false
  | _ => true

/-- Whether the reader takes output. -/
def listens (w : Watch) : Bool :=
  w.started && w.reading && w.tasks.isEmpty

/-- Performs a task of the reader; a crash ends the reading. -/
def perform (task : Task) (rest : List Task) (w : Watch) : Watch :=
  match task with
  | .call h line => { w with tasks := (h.reaction line w.record).tasks ++ rest }
  | .add j => { w with tasks := rest, record := w.record.append j }
  | .crash => { w with tasks := [], reading := false }

/-- One step, where it is possible. -/
def step (w : Watch) : Event → Option Watch
  | .spawn (.ok ()) => if w.stage = .begun then some { w with stage := .running } else none
  | .spawn (.error e) => if w.stage = .begun then some { w with stage := .refused e } else none
  | .store => if w.started ∧ ¬w.stored then some { w with stored := true } else none
  | .output s =>
    if w.listens then
      let (lines, line) := takeLines w.line [] s
      some { w with line := line, tasks := showing w.handlers lines }
    else none
  | .outputEnd =>
    if w.listens then
      some { w with line := [], tasks := showing w.handlers (lastLine w.line), reading := false }
    else none
  | .outputLost => if w.listens then some { w with line := [], reading := false } else none
  | .work =>
    match w.tasks with
    | [] => none
    | task :: rest => some (w.perform task rest)
  | .reap retval => if w.stage = .running then some { w with stage := .reaped retval } else none
  | .finish =>
    match w.stage with
    | .reaped retval =>
      if w.reading ∨ ¬w.tasks.isEmpty then none
      else some { w with stage := .finished, record := w.record.finish retval }
    | _ => none
  | .report =>
    if w.stage = .finished then
      some { w with stage := .reported, reports := w.reports ++ [w.record] }
    else none

/-- All steps of a list; one that is not possible changes nothing. -/
def steps (w : Watch) (events : List Event) : Watch :=
  events.foldl (fun w e => (w.step e).getD w) w

/-- The reader has performed all its tasks. -/
def settle (w : Watch) : Watch :=
  let (record, alive) := workOff w.tasks w.record
  { w with record := record, reading := alive && w.reading, tasks := [] }

/-- One step, and all that the reader has to do after it. -/
def stepThrough (w : Watch) (e : Event) : Option Watch :=
  (w.step e).map settle

/-- The steps for a command, with their times, after it was started and its record stored. -/
def schedule (limit : Option Nat) (c : Conduct) : List (Nat × Event) :=
  let w := waitFor limit c
  let outputs := w.conduct.bursts.map fun b => (b.time, Event.output b.bytes)
  let last := max w.time w.conduct.closed
  outputs ++ [(w.conduct.closed, .outputEnd), (last, .reap w.exit.code), (last, .finish),
    (last, .report)]

end Watch
end Switchyard.Supervisor
