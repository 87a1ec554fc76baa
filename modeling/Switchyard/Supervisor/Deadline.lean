import Switchyard.Supervisor.Conduct

/-!
# Waiting with a deadline

A waiting loop looks at a child again and again: has it ended, and if not, has its time passed? The
loop is a function of what the system answers (`Answers`).

* `Answers.round` is one round. It lists what the loop does and gives the end of waiting, if it
  comes in this round. The look at the child comes before the look at the clock, so a child that was
  seen to have ended is never killed.
* `Answers.wait` is the loop, as far as it has come after so many rounds. It asks for the clock only
  where there is a time limit.
* `Conduct.answers` are the answers about a program whose conduct is known, and `waitFor` waits for
  it.
-/

namespace Switchyard.Supervisor

/-- How waiting for a child ended. -/
structure Exit where
  code : Int
  /-- Whether the child was killed because its time had passed. -/
  timedOut : Bool
  deriving DecidableEq

/-- Whether the time has passed. -/
def expired (deadline : Option Nat) (time : Nat) : Bool :=
  deadline.any (· ≤ time)

/-! ### What is done to the child -/

/-- Whom a try to kill is meant for. -/
inductive Target where
  /-- The child and all it started. -/
  | group
  | child
  deriving DecidableEq

/-- A try to kill. -/
structure KillTry where
  target : Target
  result : Except IoError Unit

/-- Whether the try has killed. -/
def KillTry.hits (t : KillTry) : Bool :=
  t.result.isOk

/-- What a waiting loop does. -/
inductive Act where
  /-- Reads the clock. -/
  | clock (time : Nat)
  /-- Looks whether the child has ended; nothing is seen of one that runs. -/
  | look (result : Except IoError (Option ExitStatus))
  /-- Kills the child, in one or more tries. -/
  | kill (tries : List KillTry)
  /-- Waits for the end of a child that was killed. -/
  | reap (result : Except IoError ExitStatus)
  /-- Lets the time between two looks pass. -/
  | pause

namespace Act

def isKill : Act → Bool
  | kill _ => true
  | _ => false

def isPause : Act → Bool
  | pause => true
  | _ => false

end Act

/-- How a waiting loop ends. -/
inductive Ending where
  | exited (exit : Exit)
  /-- It could not be found out how the child ended. -/
  | failed (e : IoError)
  /-- The deadline is later than the clock can tell, and the thread crashed. -/
  | crashed

/-- The ending when the child was killed. -/
def Ending.ofReap : Except IoError ExitStatus → Ending
  | .ok status => .exited ⟨status.toCode, true⟩
  | .error e => .failed e

/-- What a waiting loop has done, and how it ended, if it has. -/
structure Waiting where
  acts : List Act
  ending : Option Ending

/-! ### The loop -/

/-- The largest number of a process whose group can be killed. -/
def maxPid : Nat := 2147483647

/-- What the system answers to a waiting loop. -/
structure Answers where
  /-- The latest time that the clock can tell. -/
  latest : Nat
  /-- The readings of the clock, the one at the start first. -/
  clock : Nat → Nat
  /-- What the looks at the child give: how it ended, or nothing while it runs. -/
  look : Nat → Except IoError (Option ExitStatus)
  /-- The number of the child's process. -/
  pid : Nat
  killGroup : Except IoError Unit
  killChild : Except IoError Unit
  /-- How the child ended after it was killed. -/
  reap : Except IoError ExitStatus

namespace Answers

/-- The tries to kill the group, or the child alone where the group cannot be killed. -/
def kill (a : Answers) : List KillTry :=
  if a.pid ≤ maxPid then
    match a.killGroup with
    | .ok () => [⟨.group, .ok ()⟩]
    | .error e => [⟨.group, .error e⟩, ⟨.child, a.killChild⟩]
  else [⟨.child, a.killChild⟩]

/-- Reads the clock, if there is a deadline. -/
def reading (a : Answers) (deadline : Option Nat) (n : Nat) : List Act :=
  if deadline.isSome then [.clock (a.clock n)] else []

/-- One round. -/
def round (a : Answers) (deadline : Option Nat) (n : Nat) : Waiting :=
  match a.look n with
  | .error e => ⟨[.look (.error e)], some (.failed e)⟩
  | .ok (some status) =>
    ⟨[.look (.ok (some status))], some (.exited ⟨status.toCode, false⟩)⟩
  | .ok none =>
    let seen := .look (.ok none) :: a.reading deadline (n + 1)
    if expired deadline (a.clock (n + 1)) then
      ⟨seen ++ [.kill a.kill, .reap a.reap], some (.ofReap a.reap)⟩
    else ⟨seen ++ [.pause], none⟩

/-- So many rounds from the `n`-th on; the loop may end before. -/
def rounds (a : Answers) (deadline : Option Nat) : (count : Nat) → (n : Nat) → Waiting
  | 0, _ => ⟨[], none⟩
  | count + 1, n =>
    let now := a.round deadline n
    match now.ending with
    | some e => ⟨now.acts, some e⟩
    | none =>
      let later := a.rounds deadline count (n + 1)
      ⟨now.acts ++ later.acts, later.ending⟩

/-- When the time of the child has passed, for a time limit. -/
def deadline (a : Answers) (limit : Option Nat) : Option Nat :=
  limit.map (a.clock 0 + ·)

/-- Waits for a child with a time limit, for so many rounds. -/
def wait (a : Answers) (limit : Option Nat) (count : Nat) : Waiting :=
  let deadline := a.deadline limit
  let start := a.reading deadline 0
  if deadline.all (· ≤ a.latest) then
    let w := a.rounds deadline count 0
    ⟨start ++ w.acts, w.ending⟩
  else ⟨start, some .crashed⟩

end Answers

/-! ### A child whose conduct is known -/

/-- Milliseconds between two looks. -/
def lookInterval : Nat := 50

/-- The latest time that a clock can tell in milliseconds. -/
def latestTime : Nat := 9223372036854775807999

/-- The answers about a program when time passes only in pauses and nothing fails. -/
def Conduct.answers (c : Conduct) : Answers where
  latest := latestTime
  clock n := (n - 1) * lookInterval
  look n := .ok (if c.ends ≤ n * lookInterval then some c.status else none)
  pid := 1
  killGroup := .ok ()
  killChild := .ok ()
  reap := .ok (.signal killSignal)

/-- Rounds that are enough to see the end of a program, or its time pass. -/
def roundsFor (limit : Option Nat) (c : Conduct) : Nat :=
  min c.ends (limit.getD c.ends) / lookInterval + 2

/-- A program that was waited for. -/
structure Waited where
  /-- What it did, up to where it may have been killed. -/
  conduct : Conduct
  exit : Exit
  /-- When the loop ended. -/
  time : Nat

/-- Waits for a program. -/
def waitFor (limit : Option Nat) (c : Conduct) : Waited :=
  let w := c.answers.wait limit (roundsFor limit c)
  let time := w.acts.countP Act.isPause * lookInterval
  match w.ending with
  | some (.exited exit) => ⟨if exit.timedOut then c.killedAt time else c, exit, time⟩
  | _ => ⟨c, ⟨c.status.toCode, false⟩, c.ends⟩

end Switchyard.Supervisor
