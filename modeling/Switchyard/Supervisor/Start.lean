import Switchyard.Supervisor.CommandLine

/-!
# Starting children

A start prepares the command lines, makes a worker thread, and lets the worker run a hook and then
start the children. An `Attempt` is what became of it and what was done to children meanwhile.

The worker sends one word to the starter: that the children were started, or why not. A thread that
cannot be made ends the worker on the spot, and all its children with it (`Deed.abandon`). If it has
sent no word by then, the starter finds that the worker is lost.

* `beginCommand` starts one child, behind a pipe for its output. The thread that reads the output is
  made after the word.
* `beginBatch` starts several, and makes the threads that collect what a child writes as soon as the
  child is there. When one cannot be started, those before it are killed and waited for
  (`spawnAll`).
-/

namespace Switchyard.Supervisor

/-- What became of starting children. -/
structure Attempt (α : Type) where
  /-- Whether the hook that runs before the first child is started has run. -/
  hooked : Bool
  /-- What was done to children, in order. -/
  deeds : List Deed
  result : Except StartError α

/-- An attempt that ended before there was a worker. -/
def Attempt.refused {α : Type} (e : StartError) : Attempt α :=
  ⟨false, [], .error e⟩

/-- What a worker does up to its word to the starter, and to children that it leaves behind. -/
structure Work (α : Type) where
  deeds : List Deed
  /-- The word, none if the worker ended before it. -/
  word : Option (Except StartError α)

/-- What the starter hears of a worker: its word, or that it is lost. -/
def Work.result {α : Type} (w : Work α) : Except StartError α :=
  w.word.getD (.error .workerLost)

/-- Makes a worker, which runs the hook and goes on with its work. -/
def inWorker {α : Type} (host : Host) (work : Work α) : Attempt α :=
  match host.thread with
  | .error e => .refused (.worker e)
  | .ok () => ⟨true, work.deeds, work.result⟩

/-- What becomes of so many children when the worker that started them ends. -/
def abandoned (children : Nat) : List Deed :=
  (List.range children).map .abandon

/-! ### One command -/

/-- Starts a prepared command line with a pipe for its output. -/
def spawnPiped (host : Host) (args : List String) : Work Conduct :=
  match host.pipe with
  | .error e => ⟨[], some (.error (.pipe e))⟩
  | .ok () =>
    match spawn host 0 args with
    | .error e => ⟨[.start 0 (.error e)], some (.error e)⟩
    | .ok c =>
      let left :=
        match host.reader with
        | .error _ => abandoned 1
        | .ok () => []
      ⟨.start 0 (.ok ()) :: left, some (.ok c)⟩

/-- Starts a command. -/
def beginCommand (host : Host) (root : Option String) (args : List String) : Attempt Conduct :=
  match prepare root args with
  | .error e => .refused e
  | .ok args => inWorker host (spawnPiped host args)

/-! ### Several commands -/

/-- The command lines to start; the first one that cannot be prepared is reported. -/
def prepareAll (root : Option String) : List (List String) → Except StartError (List (List String))
  | [] => .ok []
  | args :: rest =>
    match prepare root args with
    | .error e => .error e
    | .ok args => (prepareAll root rest).map (args :: ·)

/-- Kills a child and waits for it; one that could not be killed is not waited for. -/
def stop (host : Host) (child : Nat) : List Deed :=
  .kill child (host.kill child) ::
    match host.kill child with
    | .ok () => [.reap child (host.reap child)]
    | .error _ => []

/-- Starts prepared command lines in their order, where so many children were started before. All
children are stopped when one cannot be started. -/
def spawnAll (host : Host) (before : Nat) : List (List String) → Work (List Conduct)
  | [] => ⟨[], some (.ok [])⟩
  | args :: rest =>
    match spawn host before args with
    | .error e =>
      ⟨.start before (.error e) :: (List.range before).flatMap (stop host), some (.error e)⟩
    | .ok c =>
      match host.collect before with
      | .error _ => ⟨.start before (.ok ()) :: abandoned (before + 1), none⟩
      | .ok () =>
        let w := spawnAll host (before + 1) rest
        ⟨.start before (.ok ()) :: w.deeds, w.word.map fun result => result.map (c :: ·)⟩

/-- Starts a batch of commands. -/
def beginBatch (host : Host) (root : Option String) (commands : List (List String)) :
    Attempt (List Conduct) :=
  match prepareAll root commands with
  | .error e => .refused e
  | .ok [] => .refused .emptyCommand
  | .ok commands => inWorker host (spawnAll host 0 commands)

end Switchyard.Supervisor
