import Switchyard.Rehearsal.Shell.Parser
import Switchyard.Rehearsal.Shell.Programs
import Switchyard.Supervisor.Conduct
import Switchyard.Text.Utf8

/-!
# The state of a shell

A shell has a clock of its own. What it writes is noted with its time, and each descriptor leads to
one of the streams or nowhere.

Before a command runs, the pieces of its words are replaced: `settleWord` runs the scripts and
computes the expressions in a word, `expand` replaces parameters and cuts what is not quoted into
fields.

It is the state of a child in a rehearsal, of which the daemon sees only what comes out.
-/

namespace Switchyard.Rehearsal.Shell

open Supervisor

/-- Where a descriptor leads. -/
inductive Outlet where
  | channel (c : Channel)
  | nowhere

/-- The state of a running shell. -/
structure State where
  /-- Milliseconds since the start. -/
  now : Nat
  /-- What was written, the latest first. -/
  bursts : List Burst
  /-- When the last background command ends. -/
  lingering : Nat
  vars : List (String × String)
  /-- The name of the shell and its arguments. -/
  args : List String
  /-- The exit code of the latest command. -/
  status : Nat
  ended : Option ExitStatus
  /-- A loop is being left for good, or only for its next turn. -/
  leaving : Option Bool
  outlets : List (Nat × Outlet)
  input : Octets
  /-- The line of the command that runs. -/
  line : Nat
  /-- The files of the machine. -/
  files : Files.Tree
  /-- Whether a command that fails ends the shell. -/
  strict : Bool
  /-- Whether the exit code of the command that runs is looked at by another one. -/
  tested : Bool
  /-- Whether commands are shown before they run. -/
  traced : Bool

namespace State

/-- A shell at its start. -/
def start (now : Nat) (vars : List (String × String)) (files : Files.Tree) (name : String) :
    State :=
  ⟨now, [], 0, vars, [name], 0, none, none, [(1, .channel .output), (2, .channel .errors)], [], 1,
    files, false, false, false⟩

/-- Whether no further command runs. -/
def stopped (s : State) : Bool :=
  s.ended.isSome || s.leaving.isSome

/-- Where a descriptor leads. -/
def outlet (s : State) (descriptor : Nat) : Outlet :=
  ((s.outlets.find? (·.1 = descriptor)).map (·.2)).getD .nowhere

/-- Writes to a descriptor. -/
def write (descriptor : Nat) (bytes : Octets) (s : State) : State :=
  match s.outlet descriptor with
  | .channel c =>
    if bytes.isEmpty then s else { s with bursts := ⟨s.now, c, bytes⟩ :: s.bursts }
  | .nowhere => s

/-- Ends a command with an exit code. -/
def done (status : Nat) (s : State) : State :=
  { s with status := status }

/-- Ends a program with a message and an exit code. -/
def fail (status : Nat) (message : String) (s : State) : State :=
  (s.write 2 (Utf8.encode (message ++ "\n"))).done status

/-- Ends a command of the shell itself with a message and an exit code. -/
def complain (status : Nat) (message : String) (s : State) : State :=
  s.fail status (s.args.headD "sh" ++ ": " ++ toString s.line ++ ": " ++ message)

/-- Ends a strict shell whose command failed, unless its exit code is looked at. -/
def checked (s : State) : State :=
  if s.strict && !s.tested && s.status ≠ 0 && !s.stopped then
    { s with ended := some (.code s.status) }
  else s

/-- Shows a command before it runs. -/
def trace (words : List String) (s : State) : State :=
  if s.traced && !words.isEmpty then s.write 2 (Utf8.encode ("+ " ++ " ".intercalate words ++ "\n"))
  else s

/-- The value of a variable, if it is set. -/
def var? (s : State) (name : String) : Option String :=
  (s.vars.find? (·.1 = name)).map (·.2)

/-- Sets a variable. -/
def setVar (name value : String) (s : State) : State :=
  { s with vars := (name, value) :: s.vars }

/-- The number that the shell has as a process. -/
def processNumber : String := "4321"

/-! ### Parameters -/

/-- The value of a parameter by its name alone. -/
def plainParam? (s : State) (name : String) : Option String :=
  match name.toNat? with
  | some n => s.args[n]?
  | none =>
    if name = "#" then some (toString (s.args.length - 1))
    else if name = "?" then some (toString s.status)
    else if name = "$" then some processNumber
    else if name = "@" ∨ name = "*" then some (" ".intercalate (s.args.drop 1))
    else s.var? name

/-- The length of the name at the start of a parameter. -/
def nameLength (s : List Char) : Nat :=
  match s with
  | c :: rest =>
    if c.isDigit ∨ c = '_' ∨ c.isAlpha then
      1 + (rest.takeWhile Arithmetic.isNameChar).length
    else 1
  | [] => 0

/-- The value of a parameter. After the name may stand what to use instead: with `-` if the
parameter is not set, with `+` if it is, and with a colon in front an empty value counts as none. -/
def param (s : State) (text : String) : String :=
  let chars := text.toList
  let n := nameLength chars
  let value := s.plainParam? (String.ofList (chars.take n))
  let filled := value.filter (!·.isEmpty)
  match chars.drop n with
  | [] => value.getD ""
  | ':' :: '-' :: word | ':' :: '=' :: word => filled.getD (String.ofList word)
  | '-' :: word | '=' :: word => value.getD (String.ofList word)
  | ':' :: '+' :: word => if filled.isSome then String.ofList word else ""
  | '+' :: word => if value.isSome then String.ofList word else ""
  | name =>
    if chars.head? = some '#' then
      toString ((s.plainParam? (String.ofList name)).getD "").length
    else ""

/-! ### Words -/

/-- The fields that a value is cut into. -/
def cutFields (value : String) : List String :=
  ((value.split fun c => c = ' ' || c = '\t' || c = '\n').toList.map (·.toString)).filter
    (!·.isEmpty)

/-- Runs a script in a shell of its own. -/
abbrev Nested := List String → State → State

/-- The options that a shell of its own gets. -/
def options (s : State) : String :=
  "-" ++ (if s.strict then "e" else "") ++ (if s.traced then "x" else "") ++ "c"

/-- What a script writes, and what it leaves behind. -/
def capture (nested : Nested) (script : String) (s : State) : String × State :=
  let inner := nested ("sh" :: s.options :: script :: s.args)
    { s with bursts := [], outlets := (1, .channel .output) :: s.outlets }
  let written := (inner.bursts.reverse.filter (·.channel = .output)).flatMap (·.bytes)
  let text := (written.reverse.dropWhile (· = 10)).reverse
  (Utf8.decodeLossy text,
    { s with
      now := inner.now, lingering := inner.lingering, status := inner.status
      bursts := inner.bursts.filter (·.channel = .errors) ++ s.bursts })

/-- Runs the scripts and computes the expressions in a word. -/
def settleWord (nested : Nested) : Word → State → Word × State
  | [], s => ([], s)
  | p :: rest, s =>
    let (p, s) :=
      match p with
      | .output script quoted =>
        let (text, s) := s.capture nested script
        (if quoted then Piece.text text else .fields text, s)
      | .number expression =>
        match Arithmetic.eval? s.param expression with
        | some n => (.text (toString n), s)
        | none =>
          (.text "", { s.complain 2 "arithmetic expression: expecting primary" with
            ended := some (.code 2) })
      | p => (p, s)
    let (rest, s) := settleWord nested rest s
    (p :: rest, s)

/-- Settles words one after the other. -/
def settleWords (nested : Nested) : List Word → State → List Word × State
  | [], s => ([], s)
  | w :: rest, s =>
    let (w, s) := settleWord nested w s
    let (rest, s) := settleWords nested rest s
    (w :: rest, s)

/-- The fields of a settled word; `field` is the field so far, if one has begun. -/
def fieldsOf (s : State) (fields : List String) (field : Option String) : Word → List String
  | [] => fields ++ field.toList
  | .text t :: rest => fieldsOf s fields (some (field.getD "" ++ t)) rest
  | .param name true :: rest =>
    if name = "@" then
      match s.args.drop 1 with
      | [] => fieldsOf s fields (field.filter (!·.isEmpty)) rest
      | first :: more =>
        let all := (field.getD "" ++ first) :: more
        fieldsOf s (fields ++ all.dropLast) all.getLast? rest
    else fieldsOf s fields (some (field.getD "" ++ s.param name)) rest
  | .param name false :: rest => cut fields field (s.param name) rest
  | .fields text :: rest => cut fields field text rest
  | .output .. :: rest | .number _ :: rest => fieldsOf s fields field rest
where
  /-- Goes on after a value that is cut into fields. -/
  cut (fields : List String) (field : Option String) (value : String) (rest : Word) :
      List String :=
    match cutFields value with
    | [] => fieldsOf s fields field rest
    | first :: more =>
      let all := (field.getD "" ++ first) :: more
      fieldsOf s (fields ++ all.dropLast) all.getLast? rest

/-- The fields of settled words. -/
def expand (s : State) (words : List Word) : List String :=
  words.flatMap (fieldsOf s [] none)

/-- The value of a settled word that is not cut into fields. -/
def value (s : State) (w : Word) : String :=
  String.join (w.map fun
    | .text t | .fields t => t
    | .param name _ => s.param name
    | .output .. | .number _ => "")

/-- Makes assignments, each with those before it in force. -/
def assign (nested : Nested) : List (String × Word) → State → State
  | [], s => s
  | (name, w) :: rest, s =>
    let (w, s) := settleWord nested w s
    assign nested rest (s.setVar name (s.value w))

/-! ### Redirections -/

/-- Redirects a descriptor. Files take what is written and hold nothing. -/
def redirect (s : State) (r : Redirect) : State :=
  match r.target with
  | .file _ =>
    if r.descriptor = 0 then { s with input := [] }
    else { s with outlets := (r.descriptor, .nowhere) :: s.outlets }
  | .descriptor n => { s with outlets := (r.descriptor, s.outlet n) :: s.outlets }

/-- What a command leaves behind when its redirections end. -/
def restore (redirects : List Redirect) (before s : State) : State :=
  { s with
    outlets := before.outlets
    input := if redirects.any (·.descriptor = 0) then before.input else s.input }

end State
end Switchyard.Rehearsal.Shell
