import Switchyard.Rehearsal.Shell.Commands

/-!
# Running scripts

A script is run against the clock of its shell; the result is the conduct of the shell.

Background commands run along with what follows, share the streams and keep them open. A group in a
shell of its own keeps its assignments and its exit to itself; a signal ends everything. A loop that
does not come to an end within `maxTurns` turns counts as one that never ends.

`host` is a machine that runs programs of a file tree: a shell and the programs beside it.

This is where the machine of rehearsals meets the daemon: `conduct` is all that the daemon gets to
know of a child, and `host` is one of the systems that it may run on.
-/

namespace Switchyard.Rehearsal.Shell

open Supervisor

namespace State

/-- What a shell of its own leaves behind. -/
def leave (outer inner : State) : State :=
  let (status, ended) :=
    match inner.ended with
    | some (.code n) => (n, none)
    | other => (inner.status, other)
  { inner with
    vars := outer.vars, args := outer.args, outlets := outer.outlets, input := outer.input,
    line := outer.line, strict := outer.strict, tested := outer.tested, traced := outer.traced,
    status := status, ended := ended, leaving := none }

/-- What another shell leaves behind: it gets its signals alone. -/
def leaveShell (outer inner : State) : State :=
  match (leave outer inner).ended with
  | some (.signal n) => { leave outer inner with ended := none, status := 128 + n }
  | _ => leave outer inner

/-- Goes on with a loop after one of its turns, unless the loop is left. -/
def nextTurn (loop : State → State) (s : State) : State :=
  match s.leaving with
  | some true => { s with leaving := none }
  | some false => loop { s with leaving := none }
  | none => if s.ended.isSome then s else loop s

/-- Runs the body of a loop for each value. -/
def each (body : State → State) (name : String) : List String → State → State
  | [], s => s
  | value :: rest, s => nextTurn (each body name rest) (body (s.setVar name value))

/-- Runs a script whose exit code is looked at. -/
def looked (run : State → State) (s : State) : State :=
  { run { s with tested := true } with tested := s.tested }

/-- How many turns a loop takes before it counts as one without an end. -/
def maxTurns : Nat := 20000

/-- Runs the body of a loop while the test holds; `status` is that of the last turn. -/
def whilst (succeeds : Bool) (test body : State → State) : (fuel status : Nat) → State → State
  | 0, _, s => { s with now := s.now + forever }
  | fuel + 1, status, s =>
    let s := test s
    if s.stopped then { s with leaving := none }
    else if decide (s.status = 0) = succeeds then
      let after := body s
      nextTurn (whilst succeeds test body fuel after.status) after
    else s.done status

end State

/-- Runs a script; `nested` runs another shell. -/
def Script.run (nested : State.Nested) : Script → State → State
  | .skip, s => s
  | .simple number sets words redirects, s =>
    if s.stopped then s
    else
      let start := { s with line := number }
      let (words, settled) := start.settleWords nested words
      let fields := settled.expand words
      let substituted := words.any fun w => w.any fun | .fields _ => true | _ => false
      let status := if substituted then settled.status else 0
      let set := State.assign nested sets (if fields.isEmpty then settled.done status else settled)
      if set.stopped then set
      else
        let shown := (sets.map fun (name, _) => name ++ "=" ++ (set.var? name).getD "") ++ fields
        let ready := redirects.foldl State.redirect (set.trace shown)
        if fields = ["exec"] then { ready with status := 0 }
        else
          let after := (State.restore redirects s (State.callLine nested fields ready)).checked
          if fields.isEmpty ∨ sets.isEmpty then after else { after with vars := s.vars }
  | .sequence a b, s => run nested b (run nested a s)
  | .background a, s =>
    if s.stopped then s
    else
      let inner := run nested a { s with lingering := 0, input := [] }
      { s with
        bursts := inner.bursts
        lingering := max s.lingering (max inner.now inner.lingering)
        status := 0 }
  | .andThen a b, s =>
    let s := s.looked (run nested a)
    if s.status = 0 then run nested b s else s
  | .orElse a b, s =>
    let s := s.looked (run nested a)
    if s.status = 0 then s else run nested b s
  | .negate a, s =>
    let s := s.looked (run nested a)
    s.done (if s.status = 0 then 1 else 0)
  | .pipe a b, s =>
    if s.stopped then s
    else
      let left := run nested a
        { s with bursts := [], outlets := (1, .channel .output) :: s.outlets }
      let input := (left.bursts.reverse.filter (·.channel = .output)).flatMap (·.bytes)
      let errors := left.bursts.filter (·.channel = .errors)
      State.checked <| State.leave s <| run nested b
        { s with
          now := left.now, lingering := max s.lingering left.lingering, input := input,
          bursts := errors ++ s.bursts }
  | .group own a redirects, s =>
    if s.stopped then s
    else
      let inner := run nested a (redirects.foldl State.redirect s)
      if own then (State.leave s inner).checked else State.restore redirects s inner
  | .choice test yes no, s =>
    let s := s.looked (run nested test)
    if s.stopped then s
    else if s.status = 0 then run nested yes s
    else run nested no (s.done 0)
  | .each name words body, s =>
    if s.stopped then s
    else
      let (words, settled) := s.settleWords nested words
      State.each (run nested body) name (settled.expand words) (settled.done 0)
  | .whilst succeeds test body, s =>
    if s.stopped then s
    else
      let test := State.looked (run nested test)
      State.whilst succeeds test (run nested body) State.maxTurns 0 s

/-- How a shell is started. -/
structure Start where
  strict : Bool
  traced : Bool
  /-- The script is an argument. -/
  given : Bool
  /-- The script is the input. -/
  fromInput : Bool

/-- The letters of options that change nothing here. -/
def idleOptions : List Char :=
  "abfhilmnpuvCEIV".toList

/-- Reads one letter of an option; `on` tells whether it is given or taken back. -/
def Start.letter (on : Bool) (o : Start) (c : Char) : Option Start :=
  if c = 'e' then some { o with strict := on }
  else if c = 'x' then some { o with traced := on }
  else if c = 'c' then some { o with given := true }
  else if c = 's' then some { o with fromInput := true }
  else if idleOptions.contains c then some o
  else none

/-- Reads the letters of an option, or gives the first one that there is not. -/
def Start.letters (on : Bool) (o : Start) : List Char → Except Char Start
  | [] => .ok o
  | c :: rest =>
    match o.letter on c with
    | some o => o.letters on rest
    | none => .error c

/-- An option by its name. -/
def Start.named (on : Bool) (o : Start) (name : String) : Start :=
  if name = "errexit" then { o with strict := on }
  else if name = "xtrace" then { o with traced := on }
  else o

/-- Reads one argument as letters of options, if it is one. -/
def Start.word? (o : Start) (arg : String) : Option (Except Char Start) :=
  match arg.toList with
  | '-' :: letters => some (o.letters true letters)
  | '+' :: letters => some (o.letters false letters)
  | _ => none

/-- Reads options from the front of arguments. -/
def Start.read : List String → Start → Except Char (Start × List String)
  | [], o => .ok (o, [])
  | "--" :: rest, o | "-" :: rest, o => .ok (o, rest)
  | "-o" :: name :: rest, o => read rest (o.named true name)
  | "+o" :: name :: rest, o => read rest (o.named false name)
  | arg :: rest, o =>
    match o.word? arg with
    | some (.ok o) => read rest o
    | some (.error c) => .error c
    | none => .ok (o, arg :: rest)

/-- Runs a script with these arguments; `inside` runs another shell. -/
def runText (inside : State.Nested) (o : Start) (script : String) (args : List String) (s : State) :
    State :=
  match parse script with
  | .ok a =>
    State.leave s (a.run inside { s with
      args := args, status := 0, strict := o.strict, traced := o.traced, tested := false })
  | .error (line, message) =>
    { s with args := args, line := line }.complain 2 ("Syntax error: " ++ message)

/-- Runs a shell with its name and arguments, inside shells that leave this depth of nesting. -/
def shell : (depth : Nat) → List String → State → State
  | 0, _, s => s.done 127
  | _, [], s => s.done 0
  | depth + 1, name :: args, s =>
    let inside (line : List String) (s : State) := s.leaveShell (shell depth line s)
    match Start.read args ⟨false, false, false, false⟩ with
    | .error c => s.fail 2 (name ++ ": 0: Illegal option -" ++ String.singleton c)
    | .ok (o, operands) =>
      match operands with
      | script :: args =>
        if o.given then runText inside o script (if args.isEmpty then [name] else args) s
        else if o.fromInput then
          runText inside o (Utf8.decodeLossy s.input) (name :: operands) { s with input := [] }
        else if s.files.contains script then s.done 0
        else s.fail 2 (name ++ ": 0: cannot open " ++ script ++ ": No such file")
      | [] =>
        if o.given then s.fail 2 (name ++ ": 0: -c requires an argument")
        else runText inside o (Utf8.decodeLossy s.input) [name] { s with input := [] }

/-- How deep shells may be nested. -/
def maxDepth : Nat := 16

/-- Milliseconds from the start of a program to the first thing it does. -/
def startup : Nat := 1

/-- What a program does when it is started. -/
def conduct (env : List (String × String)) (files : Files.Tree) (name : String)
    (args : List String) : Conduct :=
  let s := (State.start startup env files name).program (shell maxDepth) name args
  let bursts := s.bursts.reverse.mergeSort fun a b => a.time ≤ b.time
  ⟨bursts, s.now, s.ended.getD (.code s.status), max s.now s.lingering⟩

/-! ### A machine with a few programs -/

/-- The environment of every program. -/
def environment : List (String × String) :=
  [("PYTHONUNBUFFERED", "1"), ("PATH", ":".intercalate searchPath), ("PWD", "/"), ("IFS", " \t\n")]

/-- Starts a program of the tree. -/
def start (t : Files.Tree) : List String → Except IoError Conduct
  | [] => .error .notFound
  | name :: args =>
    if (name :: args).any fun s => s.toList.contains '\x00' then
      .error (.other "nul byte found in provided data")
    else
      match resolve t name with
      | .error e => .error e
      | .ok _ => .ok (conduct environment t name args)

/-- The machine, on which nothing fails but the start of a program. -/
def host (t : Files.Tree) : Host :=
  .of (start t)

end Switchyard.Rehearsal.Shell
