import Switchyard.Settings.Basic

/-!
# The command line

Every setting has a long flag, its name with hyphens, and a short one. Flags come in any order, each
at most once; a flag's value follows it or is joined to it by an equals sign, for a short flag also
directly. There are no arguments besides flags.

`Flags.parse` gives the settings that were chosen as members of a document.
-/

namespace Switchyard.Settings.Flags

/-- Why a command line is refused. -/
inductive Error where
  /-- A flag that there is not. -/
  | unknown (flag : String)
  /-- An argument that belongs to no flag. -/
  | unexpected (argument : String)
  | repeated (name : String)
  | missingValue (name : String)
  | badValue (name value : String)
  deriving DecidableEq

/-- The error in words. -/
def Error.message : Error → String
  | unknown flag => "unknown flag '" ++ flag ++ "'"
  | unexpected argument => "unexpected argument '" ++ argument ++ "'"
  | repeated name => "flag '--" ++ name ++ "' is given more than once"
  | missingValue name => "flag '--" ++ name ++ "' needs a value"
  | badValue name value => "'" ++ value ++ "' is no value for flag '--" ++ name ++ "'"

/-- A flag. -/
structure Flag where
  name : String
  short : Char
  /-- Reads the value; none for a flag that takes none. -/
  value : Option (String → Option Json)

/-- A text value. -/
def text (s : String) : Option Json :=
  some (.string s)

/-- A natural number below a bound; a plus sign may stand before it. -/
def natural (bound : Nat) (s : String) : Option Json :=
  let digits := match s.toList with | '+' :: rest => rest | cs => cs
  if digits.isEmpty then none
  else (Url.numberOf? 10 digits).bind fun n => if n < bound then some (.nat n) else none

/-- An endpoint. -/
def endpoint (s : String) : Option Json :=
  match Endpoint.parse s with
  | .ok e => some (.ofMembers e.members)
  | .error _ => none

/-- All flags. -/
def flags : List Flag :=
  [⟨"bus", 'b', some fun s => (BusKind.parse? s).map fun b => .string b.spelling⟩,
   ⟨"daemon-socket", 'd', some endpoint⟩,
   ⟨"notification-socket", 'n', some endpoint⟩,
   ⟨"ubus-socket", 'u', some text⟩,
   ⟨"ubus-single", 'U', none⟩,
   ⟨"mqtt-host", 'm', some text⟩,
   ⟨"mqtt-port", 'M', some (natural 65536)⟩,
   ⟨"mqtt-controller-id", 'q', some text⟩,
   ⟨"modules", 'o', some text⟩,
   ⟨"cmdline-root", 'c', some text⟩,
   ⟨"process-buffer", 'p', some (natural 0x10000000000000000)⟩,
   ⟨"poll-interval-ms", 'P', some (natural 0x10000000000000000)⟩,
   ⟨"log-filter", 'l', some text⟩,
   ⟨"log-format", 'L', some fun s => (LogFormat.parse? s).map fun f => .string f.spelling⟩]

/-- The setting that a flag chooses. -/
def Flag.key (f : Flag) : String :=
  String.ofList (f.name.toList.map fun c => if c = '-' then '_' else c)

/-- Notes a value, once. -/
def note (f : Flag) (j : Json) (acc : Json.Members) : Except Error Json.Members :=
  if (Json.lookup? f.key acc).isSome then .error (.repeated f.name)
  else .ok (acc ++ [(f.key, j)])

/-- Notes the value that a text spells. -/
def noteText (f : Flag) (read : String → Option Json) (s : String) (acc : Json.Members) :
    Except Error Json.Members :=
  match read s with
  | some j => note f j acc
  | none => .error (.badValue f.name s)

/-- Whether an argument looks like a flag. -/
def looksLikeFlag (s : String) : Bool :=
  match s.toList with
  | '-' :: _ :: _ => true
  | _ => false

/-- Short flags that stand together, and whether the last one's value is still to come. -/
def parseShort (acc : Json.Members) :
    List Char → Except Error (Json.Members × Option (Flag × (String → Option Json)))
  | [] => .ok (acc, none)
  | c :: rest =>
    match flags.find? (·.short = c) with
    | none => .error (.unknown (String.ofList ['-', c]))
    | some f =>
      match f.value, rest with
      | none, rest =>
        match note f (.bool true) acc with
        | .error e => .error e
        | .ok acc => parseShort acc rest
      | some read, [] => .ok (acc, some (f, read))
      | some read, '=' :: value =>
        (noteText f read (String.ofList value) acc).map fun acc => (acc, none)
      | some read, value =>
        (noteText f read (String.ofList value) acc).map fun acc => (acc, none)

/-- A long flag, and whether its value is still to come. -/
def parseLong (acc : Json.Members) (s : List Char) :
    Except Error (Json.Members × Option (Flag × (String → Option Json))) :=
  let name := String.ofList (s.takeWhile (· ≠ '='))
  match flags.find? (·.name = name) with
  | none => .error (.unknown ("--" ++ name))
  | some f =>
    match f.value, s.dropWhile (· ≠ '=') with
    | none, [] => (note f (.bool true) acc).map fun acc => (acc, none)
    | none, _ :: value => .error (.badValue f.name (String.ofList value))
    | some read, [] => .ok (acc, some (f, read))
    | some read, _ :: value =>
      (noteText f read (String.ofList value) acc).map fun acc => (acc, none)

/-- Reads arguments onto what was chosen; `pending` is the flag that waits for its value. -/
def parseFrom (acc : Json.Members) :
    (pending : Option (Flag × (String → Option Json))) → List String → Except Error Json.Members
  | none, [] => .ok acc
  | some (f, _), [] => .error (.missingValue f.name)
  | some (f, read), s :: rest =>
    if looksLikeFlag s then .error (.missingValue f.name)
    else
      match noteText f read s acc with
      | .error e => .error e
      | .ok acc => parseFrom acc none rest
  | none, s :: rest =>
    match s.toList with
    | ['-', '-'] =>
      match rest with
      | [] => .ok acc
      | extra :: _ => .error (.unexpected extra)
    | '-' :: '-' :: long =>
      match parseLong acc long with
      | .error e => .error e
      | .ok (acc, pending) => parseFrom acc pending rest
    | '-' :: c :: more =>
      match parseShort acc (c :: more) with
      | .error e => .error e
      | .ok (acc, pending) => parseFrom acc pending rest
    | _ => .error (.unexpected s)

/-- Reads the arguments of a command line, without the program. -/
def parse (args : List String) : Except Error Json.Members :=
  parseFrom [] none args

end Switchyard.Settings.Flags
