import Switchyard.Text.Composition
import Switchyard.Text.Joining
import Switchyard.Url.Mapping
import Switchyard.Url.Punycode

/-!
# Domain names

A domain name is made of labels with points between them. It may hold characters of any script, and
there is one form of it in ASCII: `Domain.toAscii?`.

* Characters are replaced by their plain forms and then composed. A point can come of that.
* A label that begins with `xn--` is written in ASCII already. What it was written from must be in
  plain form and hold something else than ASCII.
* No label begins with a mark, and a character that asks for joined or separate letters stands only
  where it makes a difference.
* If a name has leftward letters anywhere, each label has one direction from its first character to
  its last one.
-/

namespace Switchyard.Url.Domain

open Text

/-! ### Characters -/

/-- Characters that no domain name may hold. -/
def isDenied (c : Char) : Bool :=
  c ≤ ' ' || c = '\x7f' || c = '\ufffd' || "%#/:<>?@[\\]^|".toList.contains c

/-- Whether all characters of a text are of ASCII. -/
def isAscii (s : List Char) : Bool :=
  s.all (·.toNat < 0x80)

/-- The plain form of a text. -/
def plain (s : List Char) : List Char :=
  composed (s.flatMap plainForm)

/-! ### Joiners -/

/-- Whether the next character that counts, if any, satisfies a condition. -/
def nextCounts (p : Char → Bool) (s : List Char) : Bool :=
  (s.dropWhile isTransparent).head?.any p

/-- Whether a joiner makes a difference between the text before it, which is in reverse, and the
text after it. -/
def joinerFits (joiner : Char) (before after : List Char) : Bool :=
  before.head?.any isSilencing ||
    (joiner = '\u200c' && nextCounts joinsAfter before && nextCounts joinsBefore after)

/-- Whether all joiners of a text fit; `before` is what comes before it, in reverse. -/
def joinersFit (before : List Char) : List Char → Bool
  | [] => true
  | c :: after =>
    (!joiners.contains c || joinerFits c before after) && joinersFit (c :: before) after

/-! ### Directions -/

/-- Whether a label has one direction. Marks at its end do not count. -/
def hasOneDirection (label : List Char) : Bool :=
  match label.map direction with
  | [] => true
  | first :: others =>
    let inner := (others.reverse.dropWhile (· = .mark)).reverse
    let last := inner.getLast?.getD first
    if first = .rightward then
      !inner.any Direction.turns && (last = .rightward || last = .number)
    else if first = .leftward then
      !inner.contains .rightward && (last.turns || last = .number) &&
        !(inner.contains .number && inner.contains .arabicNumber)
    else false

/-- Whether the labels of a name agree in their directions. -/
def directionsAgree (labels : List (List Char)) : Bool :=
  !(labels.any fun label => label.any fun c => (direction c).turns) || labels.all hasOneDirection

/-! ### Labels -/

/-- How a label begins that is written in ASCII. -/
def mark : List Char := "xn--".toList

/-- The largest length of a label that is read, without its beginning. -/
def maxCoded : Nat := 2000

/-- The largest length of a label that is written. -/
def maxPlain : Nat := 1000

/-- What a label in plain form was written from. -/
def source? (label : List Char) : Option (List Char) :=
  if !mark.isPrefixOf label then
    if isAscii label || label.length ≤ maxPlain then some label else none
  else if !isAscii label || maxCoded < label.length - mark.length then none
  else
    match Punycode.decode? (label.drop mark.length) with
    | none => none
    | some s => if isAscii s || s.contains '.' || s ≠ plain s then none else some s

/-- Whether a label may stand in a name. -/
def isLabel (label : List Char) : Bool :=
  !label.any isDenied && joinersFit [] label &&
    !label.head?.any fun c => !isAscii [c] && hasCategory ["Mn", "Mc", "Me"] c

/-- A label in plain form as it is written in ASCII. -/
def written (label : List Char) : List Char :=
  if isAscii label then label else mark ++ Punycode.encode label

/-- The form of a name in ASCII. -/
def toAscii? (name : List Char) : Option (List Char) :=
  let labels := (plain name).splitOn '.'
  match labels.mapM source? with
  | none => none
  | some sources =>
    if sources.all isLabel && directionsAgree sources then
      some (['.'].intercalate (labels.map written))
    else none

end Switchyard.Url.Domain
