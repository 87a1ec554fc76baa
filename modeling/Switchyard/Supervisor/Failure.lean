import Switchyard.Stream.Failure

/-!
# Failures of commands

* `StartError` is why a command did not start, `CommandError` why a command that is waited for did
  not give a usable result.
* The `chain` of an error is its own text and the texts of the errors behind it; `trace` writes a
  chain with one cause on each line.
-/

namespace Switchyard

/-- A chain of error texts, one cause on each line. -/
def trace (chain : List String) : String :=
  "\n  caused by: ".intercalate chain

namespace Supervisor

/-- Why a command did not start. -/
inductive StartError where
  /-- The command line has no program. -/
  | emptyCommand
  /-- A pattern for output lines is no regular expression. -/
  | badPattern (pattern : String)
  /-- The pipe for the output could not be made. -/
  | pipe (e : IoError)
  /-- The program could not be started. -/
  | spawn (program : String) (e : IoError)
  /-- The worker thread could not be made. -/
  | worker (e : IoError)
  /-- The worker ended before it said whether the command had started: a thread for the output of a
  child could not be made. -/
  | workerLost
  deriving DecidableEq

namespace StartError

/-- The error in words. -/
def message : StartError → String
  | emptyCommand => "command line is empty"
  | badPattern pattern => "invalid output pattern '" ++ pattern ++ "'"
  | pipe e => "failed to create output pipe: " ++ e.message
  | spawn program e => "failed to spawn '" ++ program ++ "': " ++ e.message
  | worker e => "failed to start supervisor worker: " ++ e.message
  | workerLost => "supervisor worker exited before the command started"

/-- The error and what is behind it. -/
def chain (e : StartError) : List String :=
  e.message ::
    match e with
    | pipe e | spawn _ e | worker e => [e.message]
    | emptyCommand | badPattern _ | workerLost => []

end StartError

/-- Why a command that was waited for gave no usable result. -/
inductive CommandError where
  /-- It did not start. -/
  | start (e : StartError)
  /-- Waiting for it failed. -/
  | wait (program : String) (e : IoError)
  /-- It exited with another status than the one that was asked for. -/
  | unexpectedStatus (program : String) (expected actual : Int) (stderr : String)
  /-- Its output does not match the pattern. -/
  | unmatched (program pattern : String)
  deriving DecidableEq

namespace CommandError

/-- The error in words. -/
def message : CommandError → String
  | start e => e.message
  | wait program e => "failed to wait for '" ++ program ++ "': " ++ e.message
  | unexpectedStatus program expected actual _ =>
    "'" ++ program ++ "' exited with " ++ toString actual ++ ", expected " ++ toString expected
  | unmatched program pattern =>
    "output of '" ++ program ++ "' does not match '" ++ pattern ++ "'"

/-- The error and what is behind it. -/
def chain : CommandError → List String
  | start e => e.chain
  | wait program e => [(wait program e).message, e.message]
  | e => [e.message]

end CommandError

end Supervisor
end Switchyard
