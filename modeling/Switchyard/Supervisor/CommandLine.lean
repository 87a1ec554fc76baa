import Switchyard.Supervisor.Deadline
import Switchyard.Supervisor.Lines

/-!
# Commands that are waited for

* `prepare` puts a program with an absolute path below the configured root; any other name is
  looked up by the system and stays as it is.
* `run` starts a command, waits for it, and gives its exit code and all it wrote.
* `runChecked` asks for an exit code, `runParsed` also for a match in the output.
-/

namespace Switchyard.Supervisor

/-! ### Programs below a root -/

/-- A path below another; one slash stands between them. -/
def joinPath (root path : String) : String :=
  if root.isEmpty ∨ root.toList.getLast? = some '/' then root ++ path else root ++ "/" ++ path

/-- The program to start for a name. -/
def injectRoot (root : Option String) (program : String) : String :=
  match root, program.toList with
  | some root, '/' :: rest => joinPath root (String.ofList (rest.dropWhile (· = '/')))
  | _, _ => program

/-- The command line to start: a program and its arguments. -/
def prepare (root : Option String) : List String → Except StartError (List String)
  | [] => .error .emptyCommand
  | program :: args => .ok (injectRoot root program :: args)

/-- Starts a prepared command line as the child of a number. -/
def spawn (host : Host) (child : Nat) (args : List String) : Except StartError Conduct :=
  match host.start child args with
  | .ok c => .ok c
  | .error e => .error (.spawn (args.headD "") e)

/-! ### Running to the end -/

/-- The result of a command. -/
structure Output where
  retval : Int
  stdout : String
  stderr : String
  deriving DecidableEq

/-- The result of a command and the milliseconds it took. -/
structure Finished where
  output : Output
  duration : Nat

/-- Runs a command to its end, or up to a time limit in milliseconds. Its streams are read to
their end, which may come after its own. -/
def run (host : Host) (root : Option String) (args : List String) (limit : Option Nat) :
    Except CommandError Finished :=
  match (prepare root args).bind (spawn host 0) with
  | .error e => .error (.start e)
  | .ok c =>
    let w := waitFor limit c
    let text (channel : Channel) := Utf8.decodeLossy (w.conduct.written channel)
    .ok ⟨⟨w.exit.code, text .output, text .errors⟩, max w.time w.conduct.closed⟩

/-- Runs a command that must exit with a code. -/
def runChecked (host : Host) (root : Option String) (args : List String) (expected : Int)
    (limit : Option Nat) : Except CommandError Finished :=
  match run host root args limit with
  | .error e => .error e
  | .ok f =>
    if f.output.retval = expected then .ok f
    else .error (.unexpectedStatus (args.headD "") expected f.output.retval f.output.stderr)

/-- Runs a command that must exit with 0, and gives the first group of a pattern's first match in
its output. -/
def runParsed (host : Host) (root : Option String) (args : List String) (pattern : String) :
    Except CommandError String :=
  match runChecked host root args 0 none with
  | .error e => .error e
  | .ok f =>
    let groups := (Pattern.ofLinesText? pattern).bind fun program =>
      Pattern.captures? program f.output.stdout.toList
    match groups with
    | some (_ :: some group :: _) => .ok group
    | _ => .error (.unmatched (args.headD "") pattern)

end Switchyard.Supervisor
