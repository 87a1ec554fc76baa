import Switchyard.Octets
import Switchyard.Supervisor.Failure

/-!
# What a program does

A supervisor sees of a program when it writes, when it ends and with what status, and when the last
process that holds its output has gone. A `Conduct` lists this; times are milliseconds after the
start.

`Conduct.killedAt` is the same program when it is killed, with all processes it started, at some
time.

A `Host` is what the system that programs run on answers to a supervisor: whether threads and an
output pipe can be made, what becomes of a program that is started, and whether a child can be
killed and waited for. Children that are started together have numbers, in their order. A `Deed` is
what a supervisor did to a child, and with what result.

Each child is bound to the thread that started it: the system kills it when that thread ends first.
-/

namespace Switchyard.Supervisor

/-- How a program ended. -/
inductive ExitStatus where
  /-- It exited with a code. -/
  | code (n : Nat)
  /-- A signal ended it. -/
  | signal (n : Nat)
  /-- The system tells neither a code nor a signal. -/
  | unknown
  deriving DecidableEq

/-- The code of an end; that of a signal lies above 128. -/
def ExitStatus.toCode : ExitStatus → Int
  | code n => n
  | signal n => 128 + n
  | unknown => -1

/-- The signal that cannot be refused. -/
def killSignal : Nat := 9

/-- A stream that a program writes to. -/
inductive Channel where
  | output
  | errors
  deriving DecidableEq

/-- Bytes that are written at one time. -/
structure Burst where
  time : Nat
  channel : Channel
  bytes : Octets

/-- What a program does. -/
structure Conduct where
  /-- What is written, in the order of time. -/
  bursts : List Burst
  /-- When the program ends. -/
  ends : Nat
  status : ExitStatus
  /-- When the streams are closed, by the program or what it left running. -/
  closed : Nat

namespace Conduct

/-- The program when it and all it started are killed at a time before its end. -/
def killedAt (time : Nat) (c : Conduct) : Conduct :=
  ⟨c.bursts.filter (·.time ≤ time), time, .signal killSignal, time⟩

/-- All that is written to a channel. -/
def written (channel : Channel) (c : Conduct) : Octets :=
  (c.bursts.filter (·.channel = channel)).flatMap (·.bytes)

end Conduct

/-! ### The system that programs run on -/

/-- The answers of the system. -/
structure Host where
  /-- Makes the thread of a worker. -/
  thread : Except IoError Unit
  /-- Makes the pipe that takes the output of a single command. -/
  pipe : Except IoError Unit
  /-- Makes the thread that reads the output of a single command. -/
  reader : Except IoError Unit
  /-- Makes the thread that collects what a child of a batch writes to a stream. -/
  collector : (child : Nat) → Channel → Except IoError Unit
  /-- Starts a child from its arguments, the program first. -/
  start : (child : Nat) → List String → Except IoError Conduct
  kill : (child : Nat) → Except IoError Unit
  /-- Waits for a child that was killed. -/
  reap : (child : Nat) → Except IoError Unit

namespace Host

/-- A system where nothing fails but the start of a program. -/
def of (start : List String → Except IoError Conduct) : Host :=
  ⟨.ok (), .ok (), .ok (), fun _ _ => .ok (), fun _ => start, fun _ => .ok (), fun _ => .ok ()⟩

/-- Makes the threads that collect what a child writes, that for its output first. -/
def collect (host : Host) (child : Nat) : Except IoError Unit :=
  (host.collector child .output).bind fun _ => host.collector child .errors

end Host

/-- What was done to a child. -/
inductive Deed where
  | start (child : Nat) (result : Except StartError Unit)
  | kill (child : Nat) (result : Except IoError Unit)
  | reap (child : Nat) (result : Except IoError Unit)
  /-- The thread that started it ended, and so the system killed it. Nobody waits for it. -/
  | abandon (child : Nat)

end Switchyard.Supervisor
