import Switchyard.Rehearsal.Shell.Number

/-!
# Formatted output

The `printf` and `echo` commands. A format is used again while it takes arguments and there are some
left; a missing argument counts as empty or zero.

A conversion has flags, a width and a precision; the last two may be arguments themselves. What is
no conversion ends the output with a complaint.

Both commands are run by children in rehearsals.
-/

namespace Switchyard.Rehearsal.Shell.Printf

/-! ### Conversions -/

/-- A conversion in a format. -/
structure Conversion where
  flags : List Char
  width : Nat
  precision : Option Nat

namespace Conversion

/-- Whether the text stands on the left. -/
def left (c : Conversion) : Bool := c.flags.contains '-'

/-- Whether the form shows what kind of number it is. -/
def alternate (c : Conversion) : Bool := c.flags.contains '#'

/-- Fills up to the width; zeros go behind the sign. -/
def pad (c : Conversion) (zeros : Bool) (sign s : Octets) : Octets :=
  let count := c.width - sign.length - s.length
  if c.left then sign ++ s ++ List.replicate count 32
  else if zeros && c.flags.contains '0' then sign ++ List.replicate count 48 ++ s
  else List.replicate count 32 ++ sign ++ s

/-- What is left of a text at the precision. -/
def cut (c : Conversion) (s : Octets) : Octets :=
  match c.precision with
  | some n => s.take n
  | none => s

/-- The sign that is written before a number. -/
def sign (c : Conversion) (negative : Bool) : Octets :=
  if negative then [45]
  else if c.flags.contains '+' then [43]
  else if c.flags.contains ' ' then [32]
  else []

/-- The text of an integer. -/
def integer (c : Conversion) (letter : Char) (n : Int) : Octets :=
  let base := if letter = 'o' then 8 else if letter = 'x' ∨ letter = 'X' then 16 else 10
  let digits := if c.precision = some 0 ∧ n = 0 then [] else Nat.toDigits base n.natAbs
  let digits := List.replicate (c.precision.getD 0 - digits.length) '0' ++ digits
  let digits :=
    if c.alternate && letter = 'o' && digits.head? ≠ some '0' then '0' :: digits else digits
  let mark := if c.alternate && base = 16 && n ≠ 0 then ['0', letter] else []
  let digits := if letter = 'X' then digits.map Char.toUpper else digits
  let sign := if letter = 'd' ∨ letter = 'i' then c.sign (n < 0) else []
  c.pad c.precision.isNone (sign ++ Utf8.encodeChars mark) (Utf8.encodeChars digits)

/-- The text of a fraction. -/
def real (c : Conversion) (letter : Char) (negative : Bool) (m : Number.Magnitude) : Octets :=
  let places := c.precision.getD 6
  let text :=
    match m with
    | .ratio num den =>
      if letter.toLower = 'f' then Number.fixed c.alternate places num den
      else if letter.toLower = 'e' then Number.scientific c.alternate places num den
      else Number.compact c.alternate places num den
    | .infinite => "inf".toList
    | .undefined => "nan".toList
  let text := if letter.isUpper then text.map Char.toUpper else text
  c.pad (match m with | .ratio .. => true | _ => false) (c.sign negative) (Utf8.encodeChars text)

end Conversion

/-- The flags that conversions can have. -/
def flagLetters : Kind → List Char
  | .builtin => ['#', '-', '+', ' ', '0']
  | .program => ['#', '-', '+', ' ', '0', '\'', 'I']

/-- Letters that stand for nothing before the one that says what a conversion is. -/
def sizeLetters : Kind → List Char
  | .builtin => []
  | .program => ['h', 'l', 'L', 'j', 't', 'z']

/-- The letters of conversions. -/
def letters : List Char :=
  "diouxXeEfFgGcsbq".toList

/-- The conversions that a flag does not go with, in the program. -/
def refused (flag : Char) : List Char :=
  if flag = '#' then "cdisu".toList
  else if flag = '0' then "cs".toList
  else if flag = '\'' ∨ flag = 'I' then "ceEosxX".toList
  else []

/-- Whether there is a conversion of this letter; `bare` if nothing stands before it. -/
def isConversion (kind : Kind) (c : Conversion) (bare : Bool) (letter : Char) : Bool :=
  letters.contains letter &&
    match kind with
    | .builtin => letter ≠ 'q'
    | .program =>
      (bare || (letter ≠ 'b' && letter ≠ 'q')) && !(c.precision.isSome && letter = 'c') &&
        !c.flags.any fun flag => (refused flag).contains letter

/-- The complaints of a number that was read, and the exit code. -/
def complaintsOf (kind : Kind) (text : String) (trouble : Option Number.Trouble) : Output :=
  match trouble with
  | some t => ⟨[], [t.complaint kind text], t.status, true⟩
  | none => .of []

/-- A text in the form in which the shell would read it back. -/
def readable (text : String) : String :=
  let plain (c : Char) : Bool := c.isAlphanum || "%+,-./:=@_".toList.contains c
  if text.isEmpty then "''"
  else if text.toList.all plain then text
  else "'" ++ text.replace "'" "'\\''" ++ "'"

/-- The text of an argument that is converted. -/
def convert (kind : Kind) (letter : Char) (c : Conversion) (arg : Option String) : Output :=
  let text := arg.getD ""
  if letter = 's' then .of (c.pad false [] (c.cut (Utf8.encode text)))
  else if letter = 'c' then .of (c.pad false [] [(Utf8.encode text).headD 0])
  else if letter = 'q' then .of (Utf8.encode (readable text))
  else if letter = 'b' then
    let o := Escape.text (.argument kind) text
    { o with bytes := c.pad false [] (c.cut o.bytes) }
  else if "eEfFgG".toList.contains letter then
    let (negative, m, trouble) := Number.readReal kind text
    (complaintsOf kind text trouble).append (.of (c.real letter negative m))
  else
    let (n, trouble) := Number.readInteger kind (letter = 'd' || letter = 'i') text
    (complaintsOf kind text trouble).append (.of (c.integer letter n))

/-! ### Reading conversions -/

/-- A number in a conversion: digits, or a star for an argument. -/
def takeSize (kind : Kind) (args : List String) (s : List Char) :
    Int × Output × List String × List Char :=
  match s with
  | '*' :: rest =>
    match args with
    | [] => (0, .of [], [], rest)
    | a :: args =>
      let (n, trouble) := Number.readInteger kind true a
      (n, complaintsOf kind a trouble, args, rest)
  | s =>
    let digits := s.takeWhile Char.isDigit
    (Escape.number 10 digits, .of [], args, s.drop digits.length)

/-- Takes what stands between the percent sign and the letter of a conversion. -/
def takeConversion (kind : Kind) (args : List String) (s : List Char) :
    Conversion × Output × List String × List Char :=
  let flags := s.takeWhile (flagLetters kind).contains
  let (width, o, args, rest) := takeSize kind args (s.drop flags.length)
  let flags := if width < 0 then '-' :: flags else flags
  match rest with
  | '.' :: rest =>
    let (precision, o', args, rest) := takeSize kind args rest
    let precision := if precision < 0 then none else some precision.toNat
    (⟨flags, width.natAbs, precision⟩, o.append o', args, rest)
  | rest => (⟨flags, width.natAbs, none⟩, o, args, rest)

/-- The complaint about a text that is no conversion. -/
def noConversion (kind : Kind) (text : List Char) (ended : Bool) : Output :=
  match kind with
  | .builtin =>
    .failure 2 (if ended then "missing format character"
      else String.ofList text ++ ": invalid directive")
  | .program => .failure 1 (String.ofList text ++ ": invalid conversion specification")

/-! ### Formats -/

/-- Goes over a format once. Gives the output and the arguments left. -/
def formatOnce (kind : Kind) : (fuel : Nat) → List String → List Char → Output × List String
  | 0, args, _ | _, args, [] => (.of [], args)
  | fuel + 1, args, '\\' :: rest =>
    match Escape.take (.format kind) rest with
    | .bytes b rest =>
      let (more, args) := formatOnce kind fuel args rest
      ((Output.of b).append more, args)
    | .ends => (⟨[], [], 0, false⟩, args)
    | .malformed => (Escape.malformed, args)
  | fuel + 1, args, '%' :: '%' :: rest =>
    let (more, args) := formatOnce kind fuel args rest
    ((Output.of [37]).append more, args)
  | fuel + 1, args, '%' :: s =>
    let (c, o, args, rest) := takeConversion kind args s
    let rest' := rest.dropWhile (sizeLetters kind).contains
    let text (n : Nat) : List Char := '%' :: s.take (s.length - n)
    match rest' with
    | [] => (o.append (noConversion kind (text 0) true), args)
    | letter :: rest' =>
      if isConversion kind c (rest.length = s.length) letter then
        let (more, left) := formatOnce kind fuel (args.drop 1) rest'
        ((o.append (convert kind letter c args.head?)).append more, left)
      else (o.append (noConversion kind (text rest'.length) false), args)
  | fuel + 1, args, c :: rest =>
    let (more, args) := formatOnce kind fuel args rest
    ((Output.of (Escape.charBytes c)).append more, args)

/-- Uses a format for all arguments, but at least once. -/
def formatAll (kind : Kind) (form : List Char) : (fuel : Nat) → List String → Output
  | 0, _ => .of []
  | fuel + 1, args =>
    let (o, left) := formatOnce kind form.length args form
    match left with
    | [] => o
    | first :: _ =>
      if left.length < args.length then o.append (formatAll kind form fuel left)
      else if kind = .program then
        o.append ⟨[], ["warning: ignoring excess arguments, starting with '" ++ first ++ "'"], 0,
          true⟩
      else o

/-- What a format makes of arguments. -/
def format (kind : Kind) (form : String) (args : List String) : Output :=
  formatAll kind form.toList (args.length + 1) args

/-! ### Echo -/

/-- Whether an argument is options of the program. -/
def isEchoOptions (arg : String) : Bool :=
  match arg.toList with
  | '-' :: c :: more => (c :: more).all "neE".toList.contains
  | _ => false

/-- What `echo` writes. -/
def echo (kind : Kind) (args : List String) : Octets :=
  let options :=
    match kind with
    | .builtin => args.take 1 |>.filter (· = "-n")
    | .program => args.takeWhile isEchoOptions
  let letters := options.flatMap String.toList
  let escaped := kind = .builtin ||
    (letters.filter fun c => c = 'e' || c = 'E').getLast? = some 'e'
  let text := " ".intercalate (args.drop options.length)
  let o := if escaped then Escape.text (.echo kind) text else .of (Utf8.encode text)
  o.bytes ++ (if letters.contains 'n' || !o.goesOn then [] else [10])

end Switchyard.Rehearsal.Shell.Printf
