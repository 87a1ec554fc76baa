/-!
# Paths

A path is a text; slashes separate its names. Repeated slashes and names of one dot do not count,
except that a dot at the start of a relative path is a name.

* `segments` cuts a path at its slashes, `names` leaves out what does not count.
* `parts` and `steps` keep the dots: a dot says that what stands before it is a directory, and so
  does a slash at the end.
* `parent?` is the path without its last name. It is cut from the text, so that what stands before
  stays as it was written.
-/

namespace Switchyard.Files

/-- The parts of a path between slashes. -/
def segments (path : String) : List String :=
  (path.toList.splitOn '/').map String.ofList

/-- The names of a path. -/
def names (path : String) : List String :=
  (segments path).filter fun s => s ≠ "" ∧ s ≠ "."

/-- The names and the dots of a path. -/
def parts (path : String) : List String :=
  (segments path).filter (· ≠ "")

/-- Whether a path ends in a slash. -/
def endsInSlash (path : String) : Bool :=
  path.toList.getLast? = some '/'

/-- What is walked along a path: its parts, and a dot for a slash at the end. -/
def steps (path : String) : List String :=
  parts path ++ if endsInSlash path then ["."] else []

/-- Whether a path starts at the root. -/
def isAbsolute (path : String) : Bool :=
  path.toList.head? = some '/'

/-- Leaves out parts at the end of a reversed path that do not count, but never the first part. -/
def dropIdle : List String → List String
  | [] => []
  | [first] => [first]
  | s :: rest => if s = "" ∨ s = "." then dropIdle rest else s :: rest

/-- The text of a reversed path. -/
def ofReversed : List String → String
  | [""] => "/"
  | parts => "/".intercalate parts.reverse

/-- The path without its last name; none for the root and for the empty path. -/
def parent? (path : String) : Option String :=
  match dropIdle (segments path).reverse with
  | [] => none
  | [first] => if first = "" then none else some ""
  | _ :: rest => some (ofReversed (dropIdle rest))

end Switchyard.Files
