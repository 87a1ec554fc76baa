import Switchyard.Url.Host

/-!
# URLs

A URL is a scheme, perhaps a host and a port, and a path. `Url.parse` reads one; credentials, query
and fragment are checked and left out.

* Control characters and blanks at both ends do not count, and neither do tabs and line breaks
  anywhere.
* After `//` comes the host, after that the path. Without `//` a path may start with a slash, or
  else it is kept as it is.
* In a path with slashes, a segment of one dot is left out, and one of two dots takes away the
  segment before it. A segment that looks like the name of a drive is never taken away.
* Characters that have no place in a path are escaped.
-/

namespace Switchyard

/-- A URL. -/
structure Url where
  scheme : String
  host : Option String
  port : Option Nat
  path : String
  deriving DecidableEq

namespace Url

/-! ### The scheme -/

/-- How a scheme treats its hosts and paths. -/
inductive SchemeKind where
  /-- Paths of files. -/
  | file
  /-- A well-known scheme, which needs a host. -/
  | special
  | other
  deriving DecidableEq

/-- The kind of a scheme. -/
def SchemeKind.of (scheme : String) : SchemeKind :=
  if scheme = "file" then .file
  else if ["http", "https", "ws", "wss", "ftp"].contains scheme then .special
  else .other

/-- Whether a character separates segments. -/
def SchemeKind.isSlash (kind : SchemeKind) (c : Char) : Bool :=
  c = '/' || (kind ≠ .other && c = '\\')

/-- Whether a character ends the part of a URL before the path. -/
def SchemeKind.endsAuthority (kind : SchemeKind) (c : Char) : Bool :=
  kind.isSlash c || c = '?' || c = '#'

/-- Whether a character may stand in a scheme. -/
def isSchemeChar (c : Char) : Bool :=
  c.isAlphanum || c = '+' || c = '-' || c = '.'

/-- The scheme in lower case, and what comes after its colon. -/
def splitScheme (s : List Char) : Option (String × List Char) :=
  let name := s.takeWhile isSchemeChar
  match name, s.drop name.length with
  | c :: _, ':' :: rest =>
    if c.isAlpha then some (String.ofList (name.map Char.toLower), rest) else none
  | _, _ => none

/-! ### Before the path -/

/-- Removes credentials: all up to the last at sign. Also tells whether there were any. -/
def dropCredentials (kind : SchemeKind) (s : List Char) : Except Error (Bool × List Char) :=
  let front := s.takeWhile fun c => !kind.endsAuthority c
  let behind := s.drop front.length
  let tail := (front.reverse.takeWhile (· ≠ '@')).reverse
  if tail.length = front.length then .ok (false, s)
  else
    let credentials := front.take (front.length - tail.length - 1)
    if credentials.isEmpty ∧ tail.isEmpty ∧ ¬behind.isEmpty then .error .emptyHost
    else .ok (¬(credentials = [] ∨ credentials = [':']), tail ++ behind)

/-- The text of a host and what comes after it; a colon between brackets does not end it. -/
def splitHost (kind : SchemeKind) (bracket : Bool) : List Char → List Char × List Char
  | [] => ([], [])
  | c :: rest =>
    if (c = ':' && !bracket) || kind.endsAuthority c then ([], c :: rest)
    else
      let inside := if c = '[' then true else if c = ']' then false else bracket
      let (host, rest) := splitHost kind inside rest
      (c :: host, rest)

/-- Reads a port, after its colon; there may be no digits. -/
def parsePort (s : List Char) : Except Error (Option Nat × List Char) :=
  let digits := s.takeWhile Char.isDigit
  let rest := s.drop digits.length
  match numberOf? 10 digits with
  | none => .error .badPort
  | some n =>
    if 65535 < n then .error .badPort
    else if rest.head?.any fun c => !("/\\?#".toList.contains c) then .error .badPort
    else .ok (if digits.isEmpty then none else some n, rest)

/-- Reads host and port, after two slashes. -/
def parseAuthority (kind : SchemeKind) (s : List Char) :
    Except Error (Option String × Option Nat × List Char) := do
  let (credentials, s) ← dropCredentials kind s
  let (name, rest) := splitHost kind false s
  if kind = .special ∧ name.isEmpty then throw .emptyHost
  let host ← if kind = .other then opaqueHost name else domainHost name
  if host.isEmpty ∧ rest.head? = some ':' then throw .emptyHost
  let (port, rest) ←
    match rest with
    | ':' :: rest => parsePort rest
    | rest => pure (none, rest)
  if host.isEmpty ∧ credentials then throw .emptyHost
  return (if host.isEmpty then none else some host, port, rest)

/-! ### The path -/

/-- Characters of ASCII that are escaped in a path. -/
def escapedInPath (c : Char) : Bool :=
  [' ', '"', '<', '>', Char.ofNat 0x60, '#', '?', '\x7b', '\x7d'].contains c

/-- The segments of a path, and whether each has a slash after it. -/
def segments (kind : SchemeKind) (s : List Char) : List (List Char) :=
  match s with
  | [] => [[]]
  | c :: rest =>
    if kind.isSlash c then [] :: segments kind rest
    else
      match segments kind rest with
      | [] => [escape escapedInPath c]
      | part :: more => (escape escapedInPath c ++ part) :: more

/-- A segment with its escaped dots resolved. -/
def plainDots : List Char → List Char
  | '%' :: '2' :: 'e' :: rest | '%' :: '2' :: 'E' :: rest => '.' :: plainDots rest
  | c :: rest => c :: plainDots rest
  | [] => []

/-- Whether a segment stands for the one that it is in. -/
def isSelf (s : List Char) : Bool := plainDots s = ['.']

/-- Whether a segment stands for the one above. -/
def isParent (s : List Char) : Bool := plainDots s = ['.', '.']

/-- Whether a segment looks like the name of a drive. -/
def isDrive : List Char → Bool
  | [c, d] | c :: d :: '\\' :: _ => c.isAlpha && (d = ':' || d = '|')
  | _ => false

/-- Takes away the last of reversed segments, unless it is a drive. -/
def dropLastSegment : List (List Char) → List (List Char)
  | [] => []
  | s :: rest => if isDrive s then s :: rest else rest

/-- Resolves dots onto reversed segments. -/
def resolveDots (acc : List (List Char)) : List (List Char) → List (List Char)
  | [] => acc.reverse
  | s :: rest =>
    let acc := if isParent s then dropLastSegment acc else if isSelf s then acc else s :: acc
    if rest.isEmpty && (isParent s || isSelf s) then ([] :: acc).reverse
    else resolveDots acc rest

/-- Segments with a slash before each. -/
def joinSegments (parts : List (List Char)) : String :=
  String.ofList (parts.flatMap ('/' :: ·))

/-- The part of a text before a query and a fragment. -/
def beforeQuery (s : List Char) : List Char :=
  s.takeWhile fun c => c ≠ '?' ∧ c ≠ '#'

/-- The path that is written after an authority, or with a slash at its start. -/
def hierarchicalPath (kind : SchemeKind) (s : List Char) : String :=
  match beforeQuery s with
  | [] => if kind = .other then "" else "/"
  | c :: rest =>
    let parts := segments kind (if kind.isSlash c then rest else c :: rest)
    joinSegments (resolveDots [] parts)

/-- A path that is not made of segments. -/
def opaquePath (s : List Char) : String :=
  String.ofList ((beforeQuery s).flatMap (escape fun _ => false))

/-! ### The whole URL -/

/-- Whether a character is left out at the ends. -/
def isEdge (c : Char) : Bool := c ≤ ' '

/-- The characters of a text that count. -/
def cleaned (s : List Char) : List Char :=
  (((s.dropWhile isEdge).reverse.dropWhile isEdge).reverse).filter fun c =>
    c ≠ '\t' ∧ c ≠ '\n' ∧ c ≠ '\r'

/-- Reads what comes after the scheme. -/
def parseAfterScheme (scheme : String) (s : List Char) : Except Error Url :=
  let kind := SchemeKind.of scheme
  let withAuthority (s : List Char) : Except Error Url :=
    match parseAuthority kind s with
    | .error e => .error e
    | .ok (host, port, rest) => .ok ⟨scheme, host, port, hierarchicalPath kind rest⟩
  match kind, s with
  | .special, s => withAuthority (s.dropWhile kind.isSlash)
  | .file, a :: b :: rest =>
    if kind.isSlash a && kind.isSlash b then
      let name := rest.takeWhile fun c => !kind.endsAuthority c
      let behind := rest.drop name.length
      if isDrive name then .ok ⟨scheme, none, none, hierarchicalPath kind rest⟩
      else if name.isEmpty then .ok ⟨scheme, none, none, hierarchicalPath kind behind⟩
      else
        match domainHost name with
        | .error e => .error e
        | .ok host => .ok ⟨scheme, some host, none, hierarchicalPath kind behind⟩
    else .ok ⟨scheme, none, none, hierarchicalPath kind s⟩
  | .file, s => .ok ⟨scheme, none, none, hierarchicalPath kind s⟩
  | .other, '/' :: '/' :: rest => withAuthority rest
  | .other, '/' :: rest => .ok ⟨scheme, none, none, hierarchicalPath kind ('/' :: rest)⟩
  | .other, s => .ok ⟨scheme, none, none, opaquePath s⟩

/-- Reads a URL. -/
def parse (text : String) : Except Error Url :=
  match splitScheme (cleaned text.toList) with
  | some (scheme, rest) => parseAfterScheme scheme rest
  | none => .error .relative

end Url
end Switchyard
