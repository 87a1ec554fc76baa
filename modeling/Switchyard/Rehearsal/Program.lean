import Switchyard.Daemon.Launch
import Switchyard.Rehearsal.Shell.Run

/-!
# Rehearsing the program

The program loads its settings from the command line and the environment and makes the daemon ready
in a file tree of its own. Then it answers framed requests: those on the standard input, one after
the other, on the standard output. Notifications go to the standard error, each on a line.

It decides nothing that the daemon does not decide, but it needs a system to run on. That is the
machine of `Shell.host`, which is why it stands among the rehearsals.
-/

namespace Switchyard.Rehearsal.Program

open Route

/-- The environment variables that choose a setting. -/
def settingVariables (s : Settings) : List String :=
  s.members.map fun (key, _) => "CFGBUS_" ++ key.map Char.toUpper

/-- Those of some variables that are set, with their values. -/
def environment : List String → IO (List (String × String))
  | [] => return []
  | name :: rest => do
    let more ← environment rest
    match ← IO.getEnv name with
    | some value => return (name, value) :: more
    | none => return more

/-- The modules that the daemon offers. -/
def modules (s : Settings) : List Module :=
  Modules.builtin
    ⟨Shell.host Shell.baseTree, s.cmdlineRoot, Modules.Diagnostics.defaultTable, s.keptProcesses⟩

/-- Reads bytes up to a number of them, or up to the end of the stream. -/
partial def readBytes (stream : IO.FS.Stream) (n : Nat) (acc : Octets) : IO Octets := do
  if n = 0 then return acc
  let bytes ← stream.read (USize.ofNat n)
  if bytes.isEmpty then return acc
  readBytes stream (n - bytes.size) (acc ++ bytes.toList)

/-- Writes all notices, each on a line. -/
def tell (stream : IO.FS.Stream) : List Notice → IO Unit
  | [] => return
  | .notify e :: rest => do
    stream.putStrLn e.encode
    tell stream rest
  | .reset :: rest => tell stream rest

/-- Answers the requests on a stream. -/
partial def answerAll (input output errors : IO.FS.Stream) (r : Registry) : IO Unit := do
  let start ← readBytes input Frame.headerSize []
  let size := Octets.ofLittleEndian start
  let payload ← if size ≤ Frame.maxPayload then readBytes input size [] else pure []
  let served := Socket.serve r [.bytes (start ++ payload)]
  match served.reply with
  | none => return
  | some _ =>
    output.write (ByteArray.mk served.written.toArray)
    output.flush
    let (r, later) := served.registry.elapse served.duration
    tell errors (served.notices ++ later)
    answerAll input output errors r

/-- Loads the settings, makes the daemon ready and answers what comes in; gives the exit code. -/
def run (args : List String) : IO UInt32 := do
  let start := Settings.initial (Settings.socketDirectory (← IO.getEnv "XDG_RUNTIME_DIR") "/tmp" 0)
  let chosen ← environment (settingVariables start)
  match Daemon.prepare (Settings.load start args chosen) modules Shell.baseTree with
  | (.error e, _) =>
    (← IO.getStderr).putStrLn ("cfgbusd: " ++ (Daemon.LaunchError.bootstrap e).message)
    return 1
  | (.ok ready, _) =>
    answerAll (← IO.getStdin) (← IO.getStdout) (← IO.getStderr) ready.registry
    return 0

end Switchyard.Rehearsal.Program

/-- Runs the daemon. -/
def main (args : List String) : IO UInt32 :=
  Switchyard.Rehearsal.Program.run args
