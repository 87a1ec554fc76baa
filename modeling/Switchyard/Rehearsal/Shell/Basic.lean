/-!
# Scripts

The part of the shell language that command lines use: simple commands with assignments and
redirections, lists, conditions, pipes, groups, background commands and loops.

A word is kept in pieces until its command runs, because what a piece stands for depends on what ran
before. Scripts and expressions inside words are kept as text and read when their turn comes.

The modules of this directory stand for the children of the daemon in rehearsals: a small machine
with a shell and the programs beside it. The daemon sees of a child its `Supervisor.Conduct` only,
so nothing in them is part of the daemon, no module outside `Rehearsal` imports them, and no result
is about them.
-/

namespace Switchyard.Rehearsal.Shell

/-- A piece of a word. What is quoted is not cut into fields. -/
inductive Piece where
  /-- Stands for itself. -/
  | text (s : String)
  /-- The value of a parameter. -/
  | param (name : String) (quoted : Bool)
  /-- What a script writes, without the line breaks at its end. -/
  | output (script : String) (quoted : Bool)
  /-- The value of an arithmetic expression. -/
  | number (expression : String)
  /-- Stands for the fields that it is cut into. -/
  | fields (s : String)
  deriving Inhabited

/-- A word before its pieces are replaced. -/
abbrev Word := List Piece

/-- Where a redirected descriptor leads. -/
inductive Target where
  | file (path : Word)
  | descriptor (n : Nat)

/-- A redirection of a descriptor. -/
structure Redirect where
  descriptor : Nat
  target : Target

/-- A script. -/
inductive Script where
  /-- Does nothing. -/
  | skip
  /-- A command, with the number of its line. -/
  | simple (line : Nat) (assignments : List (String × Word)) (words : List Word)
      (redirects : List Redirect)
  | sequence (a b : Script)
  /-- Runs along with what follows. -/
  | background (a : Script)
  /-- The second one only if the first one succeeds. -/
  | andThen (a b : Script)
  /-- The second one only if the first one fails. -/
  | orElse (a b : Script)
  /-- The output of the first one is the input of the second. -/
  | pipe (a b : Script)
  /-- Succeeds if the script fails. -/
  | negate (a : Script)
  /-- A group; in a shell of its own if so marked. -/
  | group (own : Bool) (a : Script) (redirects : List Redirect)
  /-- The second one if the first one succeeds, else the third. -/
  | choice (test yes no : Script)
  /-- Once for each word. -/
  | each (name : String) (words : List Word) (body : Script)
  /-- As long as the test succeeds, or as long as it fails. -/
  | whilst (succeeds : Bool) (test body : Script)
  deriving Inhabited

end Switchyard.Rehearsal.Shell
