import Switchyard.Text.Utf8
import Switchyard.Url.Address
import Switchyard.Url.Domain

/-!
# Hosts in URLs

A host is an address between brackets or a name. What a name may hold depends on the scheme: the
well-known schemes take domain names, all others any text without the characters that part a URL.
-/

namespace Switchyard.Url

/-- What is wrong with a URL. -/
inductive Error where
  | emptyHost
  | badDomain
  | badPort
  | badFour
  | badGroups
  | badCharacter
  /-- There is no scheme. -/
  | relative
  deriving DecidableEq

/-- The error in words. -/
def Error.message : Error → String
  | emptyHost => "empty host"
  | badDomain => "invalid international domain name"
  | badPort => "invalid port number"
  | badFour => "invalid IPv4 address"
  | badGroups => "invalid IPv6 address"
  | badCharacter => "invalid domain character"
  | relative => "relative URL without a base"

/-- A byte as a percent sign and two digits. -/
def percent (b : UInt8) : List Char :=
  let upper (n : Nat) := (Octets.hexDigit n).toUpper
  ['%', upper (b.toNat / 16), upper (b.toNat % 16)]

/-- A character, escaped unless it is a printable one of ASCII that `escaped` leaves alone. -/
def escape (escaped : Char → Bool) (c : Char) : List Char :=
  if ' ' ≤ c ∧ c ≤ '~' ∧ !escaped c then [c]
  else (Utf8.encode (String.ofList [c])).flatMap percent

/-- The bytes of a text with its escapes resolved. -/
def unescape : List Char → Octets
  | [] => []
  | '%' :: a :: b :: rest =>
    match Octets.hexValue? a, Octets.hexValue? b with
    | some x, some y => UInt8.ofNat (16 * x + y) :: unescape rest
    | _, _ => 37 :: unescape (a :: b :: rest)
  | c :: rest => Utf8.encode (String.ofList [c]) ++ unescape rest

/-- Characters that no host may hold. -/
def isForbidden (c : Char) : Bool :=
  "\x00\t\n\r #/:<>?@[\\]^|".toList.contains c

/-- An address between brackets, the opening one left out. -/
def bracketed (s : List Char) : Except Error String :=
  match s.reverse with
  | ']' :: inner =>
    match parseGroups? inner.reverse with
    | some groups => .ok ("[" ++ renderGroups groups ++ "]")
    | none => .error .badGroups
  | _ => .error .badGroups

/-- A host of a scheme that is not well known. -/
def opaqueHost (s : List Char) : Except Error String :=
  match s with
  | '[' :: rest => bracketed rest
  | s =>
    if s.any isForbidden then .error .badCharacter
    else .ok (String.ofList (s.flatMap (escape fun _ => false)))

/-- A host of a well-known scheme: a domain name in ASCII or an address. -/
def domainHost (s : List Char) : Except Error String :=
  match s with
  | '[' :: rest => bracketed rest
  | s =>
    match Domain.toAscii? (Utf8.decodeLossy (unescape s)).toList with
    | none => .error .badDomain
    | some [] => .error .emptyHost
    | some name =>
      if isNumeric name then
        match parseFour? name with
        | some n => .ok (".".intercalate ((Octets.bigEndian 4 n).map fun b => toString b.toNat))
        | none => .error .badFour
      else .ok (String.ofList name)

end Switchyard.Url
