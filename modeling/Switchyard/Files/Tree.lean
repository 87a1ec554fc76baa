import Switchyard.Files.Path
import Switchyard.Stream.Failure

/-!
# File trees

A file tree maps places to files; a place is the list of names on the way from the root. Operations
fail as those of the kernel do.

* `locate` follows a path to its place, whether something is there or not; `locateNew` does so for
  something that is to be made.
* `makeDirectory` makes one directory, `makeDirectories` also those above it.
* `bind` makes a socket, `connect` tells whether somebody serves one.

No operation changes or removes what is there, except `remove`.
-/

namespace Switchyard.Files

/-- What is at a place. -/
inductive Node where
  /-- A directory with its permission bits. -/
  | directory (mode : Nat)
  /-- A directory that the system fills itself: whatever else is named in it cannot be made. -/
  | managed
  /-- A file that cannot be executed. -/
  | file
  /-- A program. -/
  | program
  /-- A device. -/
  | device
  /-- A socket, and whether somebody listens on it. -/
  | socket (served : Bool)
  /-- A symbolic link. -/
  | link (target : String)
  deriving DecidableEq

/-- Whether other places can be below one. -/
def Node.holdsOthers : Node → Bool
  | directory _ | managed => true
  | _ => false

/-- The names on the way from the root. -/
abbrev Place := List String

/-- The files of a system. -/
abbrev Tree := List (Place × Node)

namespace Tree

/-- What is at a place; the root is always a directory. -/
def get? (t : Tree) (place : Place) : Option Node :=
  match t.find? (·.1 = place) with
  | some (_, n) => some n
  | none => if place = [] then some (.directory 0o755) else none

/-- Puts something at a place. -/
def put (place : Place) (n : Node) (t : Tree) : Tree :=
  (place, n) :: t.filter (·.1 ≠ place)

/-- Removes what is at a place. -/
def remove (place : Place) (t : Tree) : Tree :=
  t.filter (·.1 ≠ place)

/-! ### Following paths -/

/-- The largest length of a name, in bytes. -/
def maxName : Nat := 255

/-- The largest length of a path, in bytes. -/
def maxPath : Nat := 4095

/-- How many links are followed on one path. -/
def maxLinks : Nat := 40

/-- Follows steps from a directory. The last name need not be there; whether a link there is
followed is up to `follow`. -/
def walk (t : Tree) (follow : Bool) : (fuel : Nat) → Place → List String → Except IoError Place
  | 0, _, _ => .error (.os 40)
  | _, place, [] => .ok place
  | fuel + 1, place, name :: rest =>
    match t.get? place with
    | none => .error .notFound
    | some n =>
      if !n.holdsOthers then .error .notDirectory
      else if maxName < name.utf8ByteSize then .error .nameTooLong
      else if name = "." then walk t follow fuel place rest
      else if name = ".." then walk t follow fuel place.dropLast rest
      else
        let next := place ++ [name]
        match t.get? next with
        | some (.link target) =>
          if rest.isEmpty && !follow then .ok next
          else
            let from' := if isAbsolute target then [] else place
            walk t follow fuel from' (steps target ++ rest)
        | _ => walk t follow fuel next rest

/-- Follows an absolute path along these steps. -/
def follow (t : Tree) (toTarget : Bool) (path : String) (along : List String) :
    Except IoError Place :=
  if path.toList.contains '\x00' then .error .nulInName
  else if path.isEmpty then .error .notFound
  else if maxPath < path.utf8ByteSize then .error .nameTooLong
  else walk t toTarget (maxLinks * (along.length + 2)) [] along

/-- The place of what an absolute path names. -/
def locate (t : Tree) (toTarget : Bool) (path : String) : Except IoError Place :=
  t.follow toTarget path (steps path)

/-- The place where something new is made; a slash at the end of the path does not count, and a
link is no way to a new place. What the place belongs to comes with it, if it is taken. -/
def locateNew (t : Tree) (path : String) : Except IoError (Place × Option Node) :=
  match t.follow false path (parts path) with
  | .error e => .error e
  | .ok place =>
    match t.get? place with
    | some n => .ok (place, some n)
    | none => if t.get? place.dropLast = some .managed then .error .notFound else .ok (place, none)

/-- What is at the end of a path. -/
def lookup (t : Tree) (follow : Bool) (path : String) : Except IoError Node :=
  match t.locate follow path with
  | .error e => .error e
  | .ok place =>
    match t.get? place with
    | some n => .ok n
    | none => .error .notFound

/-- Whether a path leads to a directory. -/
def isDirectory (t : Tree) (path : String) : Bool :=
  match t.lookup true path with
  | .ok n => n.holdsOthers
  | .error _ => false

/-- Whether a path leads to anything. -/
def contains (t : Tree) (path : String) : Bool :=
  match t.lookup true path with
  | .ok _ => true
  | .error _ => false

/-! ### Directories -/

/-- Makes one directory. -/
def makeDirectory (mode : Nat) (path : String) (t : Tree) : Except IoError Tree :=
  match t.locateNew path with
  | .error e => .error e
  | .ok (_, some _) => .error .alreadyExists
  | .ok (place, none) => .ok (t.put place (.directory mode))

/-- Makes a directory, after the one above it if that is missing; `fuel` counts the directories. A
path that is a directory already is left as it is. -/
def makeDirectoriesWithin (mode : Nat) : (fuel : Nat) → String → Tree → Except IoError Unit × Tree
  | 0, _, t => (.error .notFound, t)
  | fuel + 1, path, t =>
    if path.isEmpty then (.ok (), t)
    else
      match t.makeDirectory mode path with
      | .ok t => (.ok (), t)
      | .error e =>
        if e ≠ .notFound then (if t.isDirectory path then .ok () else .error e, t)
        else
          match parent? path with
          | none => (.error (.other "failed to create whole tree"), t)
          | some above =>
            match makeDirectoriesWithin mode fuel above t with
            | (.error e, t) => (.error e, t)
            | (.ok (), t) =>
              match t.makeDirectory mode path with
              | .ok t => (.ok (), t)
              | .error e => (if t.isDirectory path then .ok () else .error e, t)

/-- Makes a directory and all missing ones above it. Directories that were made before a failure
stay. -/
def makeDirectories (mode : Nat) (path : String) (t : Tree) : Except IoError Unit × Tree :=
  makeDirectoriesWithin mode ((segments path).length + 1) path t

/-! ### Sockets -/

/-- The largest length of the path of a socket, in bytes. -/
def maxSocketPath : Nat := 107

/-- Why a path cannot name a socket. -/
def socketPathError? (path : String) : Option IoError :=
  if path.toList.contains '\x00' then some (.other "paths must not contain interior null bytes")
  else if maxSocketPath < path.utf8ByteSize then some (.other "path must be shorter than SUN_LEN")
  else none

/-- Makes a socket that is listened on. A slash at the end asks for a directory, which a new socket
is not. -/
def bind (path : String) (t : Tree) : Except IoError Tree :=
  match socketPathError? path with
  | some e => .error e
  | none =>
    match t.locateNew path with
    | .error e => .error e
    | .ok (_, some _) => .error .addressInUse
    | .ok (place, none) =>
      if endsInSlash path then .error .notFound else .ok (t.put place (.socket true))

/-- Connects to a socket. -/
def connect (t : Tree) (path : String) : Except IoError Unit :=
  match socketPathError? path with
  | some e => .error e
  | none =>
    match t.lookup true path with
    | .error e => .error e
    | .ok (.socket true) => .ok ()
    | .ok _ => .error .connectionRefused

/-- Removes the file that a path names; a link is removed itself. -/
def removeFile (path : String) (t : Tree) : Except IoError Tree :=
  match t.locate false path with
  | .error e => .error e
  | .ok place =>
    match t.get? place with
    | none => .error .notFound
    | some n => if n.holdsOthers then .error (.os 21) else .ok (t.remove place)

end Tree
end Switchyard.Files
