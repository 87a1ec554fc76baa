import Switchyard.Rehearsal.Shell.Printf
import Switchyard.Rehearsal.Shell.State

/-!
# Commands

The commands of the shell and the few programs beside it, each as a change of the shell's state.
Only `sleep` and `wait` take time.

They are what a child in a rehearsal can do; the daemon has no commands of its own.
-/

namespace Switchyard.Rehearsal.Shell.State

open Supervisor

/-! ### Signals -/

/-- The signals by name. -/
def signals : List (String × Nat) :=
  [("HUP", 1), ("INT", 2), ("QUIT", 3), ("ABRT", 6), ("KILL", 9), ("USR1", 10), ("SEGV", 11),
    ("USR2", 12), ("PIPE", 13), ("ALRM", 14), ("TERM", 15)]

/-- The number of a signal. -/
def signalNumber? (name : String) : Option Nat :=
  match name.toNat? with
  | some n => some n
  | none => (signals.find? fun (s, _) => s = name ∨ "SIG" ++ s = name).map (·.2)

/-- Sends a signal; only the shell itself can get it. -/
def kill (args : List String) (s : State) : State :=
  let (signal, targets) :=
    match args with
    | "-s" :: name :: rest => (signalNumber? name, rest)
    | first :: rest =>
      if first.startsWith "-" then (signalNumber? (first.drop 1).toString, rest)
      else (some 15, first :: rest)
    | [] => (none, [])
  match signal with
  | none => s.done 1
  | some 0 => s.done 0
  | some n =>
    if targets.contains processNumber then { s with ended := some (.signal n) }
    else s.done 1

/-! ### Time -/

/-- The milliseconds of a unit of time. -/
def unitOf? : List Char → Option Nat
  | [] | ['s'] => some 1000
  | ['m'] => some 60000
  | ['h'] => some 3600000
  | ['d'] => some 86400000
  | _ => none

/-- Milliseconds that no one waits for. -/
def forever : Nat := 1000000000

/-- The milliseconds of a number with a unit of time. -/
def milliseconds? (text : String) : Option Nat :=
  match Number.takeWord text.toList, Number.takeFraction text.toList with
  | some (.infinite, rest), _ => (unitOf? rest).map fun _ => forever
  | none, some (.ratio num den, _, rest) => (unitOf? rest).map fun unit => num * unit / den
  | none, some (.infinite, _, rest) => (unitOf? rest).map fun _ => forever
  | _, _ => none

/-- Ends a program that does not know an option. -/
def badOption (name option : String) (s : State) : State :=
  let what := match option.toList with
    | '-' :: '-' :: _ => "unrecognized option '" ++ option ++ "'"
    | _ :: c :: _ => "invalid option -- '" ++ String.singleton c ++ "'"
    | _ => ""
  s.fail 1 (name ++ ": " ++ what ++ "\nTry '" ++ name ++ " --help' for more information.")

/-- Lets time pass. -/
def sleep (name : String) (args : List String) (s : State) : State :=
  let hint := "\nTry '" ++ name ++ " --help' for more information."
  let options := args.filter fun a => a.startsWith "-" && 1 < a.length
  match options.head?, args.find? fun a => (milliseconds? a).isNone with
  | some option, _ => s.badOption name option
  | none, some a => s.fail 1 (name ++ ": invalid time interval '" ++ a ++ "'" ++ hint)
  | none, none =>
    if args.isEmpty then s.fail 1 (name ++ ": missing operand" ++ hint)
    else { s with now := s.now + (args.filterMap milliseconds?).foldl (· + ·) 0, status := 0 }

/-! ### Input and output -/

/-- The text of a failure without its number. -/
def reason : IoError → String
  | .os n => errorText n
  | e => e.message

/-- Lines with their numbers before them, from a number on. -/
def numbered (n : Nat) (fresh : Bool) : Octets → Octets
  | [] => []
  | b :: rest =>
    let digits := toString n
    let label := "".pushn ' ' (6 - digits.length) ++ digits ++ "\t"
    let (front, n) := if fresh then (Utf8.encode label, n + 1) else ([], n)
    front ++ b :: numbered n (b = 10) rest

/-- Copies its input, or complains about the files it is given. Of the files only devices are read,
and they are empty. -/
def cat (name : String) (args : List String) (s : State) : State :=
  let options := args.filter fun a => a.startsWith "-" && 1 < a.length && a ≠ "--"
  match options.find? fun o => !(o.toList.drop 1).all "nu".toList.contains with
  | some o => s.badOption name o
  | none =>
    let files := args.filter fun a => !a.startsWith "-" || a = "-"
    let shown (bytes : Octets) : Octets :=
      if options.any (·.toList.contains 'n') then numbered 1 true bytes else bytes
    let one (s : State) (file : String) : State :=
      if file = "-" then { s.write 1 (shown s.input) with input := [] }
      else
        match s.files.lookup true file with
        | .error e => s.fail 1 (name ++ ": " ++ file ++ ": " ++ reason e)
        | .ok n =>
          if n.holdsOthers then s.fail 1 (name ++ ": " ++ file ++ ": Is a directory") else s
    (if files.isEmpty then ["-"] else files).foldl one (s.done 0)

/-- Writes what a format makes of arguments, and complains as the command of its kind does. -/
def printed (kind : Kind) (name form : String) (args : List String) (s : State) : State :=
  let o := Printf.format kind form args
  let s := s.write 1 o.bytes
  let complain (s : State) (e : String) : State :=
    match kind with
    | .builtin => s.complain 1 ("printf: " ++ e)
    | .program => s.fail 1 (name ++ ": " ++ e)
  (o.complaints.foldl complain s).done o.status

/-- Formatted output by the shell. -/
def printf (args : List String) (s : State) : State :=
  match args with
  | [] | ["--"] => s.complain 2 "printf: usage: printf format [arg ...]"
  | "--" :: form :: args => s.printed .builtin "" form args
  | form :: args =>
    match form.toList with
    | '-' :: c :: _ => s.complain 2 ("printf: Illegal option -" ++ String.singleton c)
    | _ => s.printed .builtin "" form args

/-- Formatted output by the program. -/
def printfProgram (name : String) (args : List String) (s : State) : State :=
  match args with
  | [] | ["--"] =>
    s.fail 1 (name ++ ": missing operand\nTry '" ++ name ++ " --help' for more information.")
  | "--" :: form :: args | form :: args => s.printed .program name form args

/-- Reads a line into variables, the last of which gets all that is left of it. -/
def read (names : List String) (s : State) : State :=
  let names := names.filter (· ≠ "-r")
  let line := s.input.takeWhile (· ≠ 10)
  let ended := s.input.length ≤ line.length
  let rec spread : List String → List String → State → State
    | [], _, s => s
    | [last], fields, s => s.setVar last (" ".intercalate fields)
    | name :: more, fields, s => spread more (fields.drop 1) (s.setVar name (fields.headD ""))
  let s := spread names (cutFields (Utf8.decodeLossy line)) s
  { s with input := s.input.drop (line.length + 1), status := if ended then 1 else 0 }

/-! ### The shell -/

/-- Ends the shell. -/
def exit (args : List String) (s : State) : State :=
  match args with
  | [] => { s with ended := some (.code s.status) }
  | n :: _ =>
    match n.toNat? with
    | some n => { s with ended := some (.code (n % 256)) }
    | none => { s.complain 2 ("exit: Illegal number: " ++ n) with ended := some (.code 2) }

/-- Drops arguments of the shell. -/
def shift (args : List String) (s : State) : State :=
  let n := ((args.head?).bind String.toNat?).getD 1
  if s.args.length ≤ n then
    { s.complain 2 "shift: can't shift that many" with ended := some (.code 2) }
  else { s with args := s.args.take 1 ++ s.args.drop (n + 1), status := 0 }

/-- Sets the variables that arguments of the form `name=value` name. -/
def exportAll (args : List String) (s : State) : State :=
  args.foldl (fun s a =>
    let name := a.toList.takeWhile (· ≠ '=')
    match a.toList.drop name.length with
    | _ :: value => s.setVar (String.ofList name) (String.ofList value)
    | [] => s) (s.done 0)

/-! ### Tests -/

/-- The comparisons of numbers. -/
def comparisons : List (String × (Int → Int → Bool)) :=
  [("-eq", (· == ·)), ("-ne", (· != ·)), ("-lt", (· < ·)), ("-le", (· ≤ ·)), ("-gt", (· > ·)),
    ("-ge", (· ≥ ·))]

/-- What can be asked about a file. -/
def questions : List (String × (Files.Node → Bool)) :=
  let any (_ : Files.Node) : Bool := true
  [("-e", any), ("-r", any), ("-w", any), ("-d", Files.Node.holdsOthers),
    ("-f", fun n => n = .file || n = .program), ("-c", (· = .device)),
    ("-s", fun n => n ≠ .device), ("-x", fun n => n = .program || n.holdsOthers)]

/-- Why a test is none. -/
inductive TestError where
  | unexpected (text : String)
  | illegalNumber (text : String)

/-- The error in words. -/
def TestError.message : TestError → String
  | unexpected text => text ++ ": unexpected operator"
  | illegalNumber text => "Illegal number: " ++ text

/-- A number in a test. -/
def testNumber (text : String) : Except TestError Int :=
  match Arithmetic.integer? text.toList with
  | some n => .ok n
  | none => .error (.illegalNumber text)

/-- Whether a test without `-a` and `-o` holds. -/
def holdsOne (files : Files.Tree) : List String → Except TestError Bool
  | [] => .ok false
  | [text] => .ok (!text.isEmpty)
  | ["!", text] => .ok text.isEmpty
  | ["-n", text] => .ok (!text.isEmpty)
  | ["-z", text] => .ok text.isEmpty
  | [question, file] =>
    match questions.find? (·.1 = question) with
    | some (_, f) => .ok ((files.lookup true file).toOption.any f)
    | none => .error (.unexpected question)
  | [a, op, b] =>
    match comparisons.find? (·.1 = op) with
    | some (_, f) => do return f (← testNumber a) (← testNumber b)
    | none =>
      if op = "=" then .ok (a = b)
      else if op = "!=" then .ok (a ≠ b)
      else if op = "<" then .ok (decide (a < b))
      else if op = ">" then .ok (decide (b < a))
      else if a = "(" ∧ b = ")" then .ok (!op.isEmpty)
      else if a = "!" then (holdsOne files [op, b]).map (!·)
      else .error (.unexpected a)
  | "!" :: rest => (holdsOne files rest).map (!·)
  | first :: _ => .error (.unexpected first)

/-- Whether a test holds: tests joined by `-a` and, of lower rank, by `-o`. -/
def holds (files : Files.Tree) (args : List String) : Except TestError Bool :=
  if args.length ≤ 3 then holdsOne files args
  else
    let all (parts : List (List String)) : Except TestError Bool := do
      return (← parts.mapM (holdsOne files)).all id
    do return (← ((args.splitOn "-o").map (·.splitOn "-a")).mapM all).any id

/-- Ends a test. -/
def test (name : String) (args : List String) (s : State) : State :=
  match holds s.files args with
  | .ok b => s.done (if b then 0 else 1)
  | .error e => s.complain 2 (name ++ ": " ++ e.message)

/-- Changes options and arguments of the shell. -/
def set (args : List String) (s : State) : State :=
  match args with
  | [] => s.done 0
  | "--" :: args => { s with args := s.args.take 1 ++ args, status := 0 }
  | "-o" :: name :: _ => { s with strict := s.strict || name = "errexit", status := 0 }
  | "+o" :: name :: _ => { s with strict := s.strict && name ≠ "errexit", status := 0 }
  | arg :: rest =>
    let letter (on : Bool) (s : State) (c : Char) : State :=
      if c = 'e' then { s with strict := on }
      else if c = 'x' then { s with traced := on }
      else if "abfhmnuvCEIV".toList.contains c then s
      else { s.complain 2 ("set: Illegal option -" ++ String.singleton c) with
        ended := some (.code 2) }
    match arg.toList with
    | '-' :: letters => set rest (letters.foldl (letter true) s)
    | '+' :: letters => set rest (letters.foldl (letter false) s)
    | _ => { s with args := s.args.take 1 ++ arg :: rest, status := 0 }

/-- Changes the directory, which nothing here depends on. -/
def changeDirectory (args : List String) (s : State) : State :=
  match args with
  | [] => s.done 0
  | path :: _ =>
    if !Files.isAbsolute path || s.files.isDirectory path then s.done 0
    else s.complain 2 ("cd: can't cd to " ++ path)

/-! ### All commands -/

/-- Runs a program, which is known by the last name of its path. -/
def program (nested : Nested) (name : String) (args : List String) (s : State) : State :=
  match (Files.names name).getLast? with
  | some "echo" => (s.write 1 (Printf.echo .program args)).done 0
  | some "printf" => s.printfProgram name args
  | some "true" => s.done 0
  | some "false" => s.done 1
  | some "kill" => s.kill args
  | some "sleep" => s.sleep name args
  | some "cat" => s.cat name args
  | some "sh" => nested (name :: args) s
  | _ => s.done 127

/-- Runs a program that is looked up. -/
def launch (nested : Nested) (name : String) (args : List String) (s : State) : State :=
  match resolve s.files name with
  | .ok _ => s.program nested name args
  | .error e =>
    if name.isEmpty then s.complain 127 ": Permission denied"
    else if e = .notFound ∨ e = .notDirectory then s.complain 127 (name ++ ": not found")
    else s.complain (if e = .nameTooLong then 127 else 126) (name ++ ": " ++ reason e)

/-- Runs a command of which the name and the arguments are known. -/
def call (nested : Nested) (name : String) (args : List String) (s : State) : State :=
  match name with
  | "echo" => (s.write 1 (Printf.echo .builtin args)).done 0
  | "printf" => s.printf args
  | "true" | ":" | "trap" => s.done 0
  | "cd" => s.changeDirectory args
  | "false" => s.done 1
  | "exit" | "return" => s.exit args
  | "kill" => s.kill args
  | "read" => s.read args
  | "shift" => s.shift args
  | "export" => s.exportAll args
  | "set" => s.set args
  | "break" => { s with leaving := some true, status := 0 }
  | "continue" => { s with leaving := some false, status := 0 }
  | "test" => s.test "test" args
  | "[" =>
    if args.getLast? = some "]" then s.test "[" args.dropLast else s.complain 2 "[: missing ]"
  | "wait" => { s with now := max s.now s.lingering, status := 0 }
  | _ => s.launch nested name args

/-- Runs a command line. -/
def callLine (nested : Nested) (line : List String) (s : State) : State :=
  match line with
  | [] => s
  | "exec" :: name :: args =>
    let s := s.call nested name args
    { s with ended := some (s.ended.getD (.code s.status)) }
  | name :: args => s.call nested name args

end Switchyard.Rehearsal.Shell.State
