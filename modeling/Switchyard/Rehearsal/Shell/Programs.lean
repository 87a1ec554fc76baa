import Switchyard.Files.Tree

/-!
# The programs of a machine

`baseTree` has a shell and a few programs in their places, and around them what is on every machine.
`resolve` looks up a program; a name without a slash is looked up in the directories of programs.

It is the machine of rehearsals. What the daemon is told of the system it runs on is its own file
tree and a `Supervisor.Host`.
-/

namespace Switchyard.Rehearsal.Shell

open Files

/-- The programs that there are. -/
def programs : List String :=
  ["sh", "sleep", "printf", "true", "false", "cat", "echo", "kill"]

/-- The directories that programs are looked up in. -/
def searchPath : List String :=
  ["/usr/bin", "/bin"]

/-- The places of files that are no programs. -/
def files : List Place :=
  [["etc", "passwd"], ["etc", "group"], ["etc", "hosts"], ["etc", "hostname"]]

/-- The places of devices. -/
def devices : List Place :=
  [["dev", "null"], ["dev", "zero"], ["dev", "full"], ["dev", "random"], ["dev", "urandom"]]

/-- The places of directories. -/
def directories : List Place :=
  [[], ["bin"], ["usr"], ["usr", "bin"], ["etc"], ["tmp"], ["root"], ["dev"], ["home"], ["var"]]

/-- A tree with the programs, and with files and directories that are none. -/
def baseTree : Tree :=
  let below (d : String) : Tree := programs.map fun p => (names d ++ [p], .program)
  files.map (·, .file) ++ devices.map (·, .device) ++ directories.map (·, .directory 0o755) ++
    [(["proc"], .managed), (["proc", "self"], .managed)] ++ searchPath.flatMap below

/-- The path of the program that a name stands for. -/
def resolve (t : Tree) (name : String) : Except IoError String :=
  if name.isEmpty then .error .notFound
  else if !name.toList.contains '/' && Tree.maxName < name.utf8ByteSize then .error .nameTooLong
  else
    let path? :=
      if name.toList.contains '/' then some name
      else (searchPath.map fun d => d ++ "/" ++ name).find? t.contains
    match path? with
    | none => .error .notFound
    | some path =>
      match t.lookup true path with
      | .error e => .error e
      | .ok .program => .ok path
      | .ok _ => .error .permissionDenied

end Switchyard.Rehearsal.Shell
