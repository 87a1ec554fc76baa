import Switchyard.Octets

/-!
# Arithmetic in scripts

Expressions over integers: decimal, octal and hexadecimal numbers, parameters with and without a
dollar sign, the operators of `ranks`, and parentheses. Every operator groups to the left, and truth
is one or zero.

Like all of this directory, it describes children in rehearsals, not the daemon.
-/

namespace Switchyard.Rehearsal.Shell.Arithmetic

/-- A truth value as a number. -/
def truth (b : Bool) : Int :=
  if b then 1 else 0

/-- An operator on two numbers. -/
abbrev Operator := String × (Int → Int → Int)

/-- The operators by rank, those that bind least first. -/
def ranks : List (List Operator) :=
  [[("||", fun a b => truth (a ≠ 0 || b ≠ 0))],
    [("&&", fun a b => truth (a ≠ 0 && b ≠ 0))],
    [("==", fun a b => truth (a = b)), ("!=", fun a b => truth (a ≠ b))],
    [("<=", fun a b => truth (a ≤ b)), (">=", fun a b => truth (a ≥ b)),
      ("<", fun a b => truth (a < b)), (">", fun a b => truth (a > b))],
    [("+", (· + ·)), ("-", (· - ·))],
    [("*", (· * ·)), ("/", Int.tdiv), ("%", Int.tmod)]]

/-- Whether a character may stand in a name. -/
def isNameChar (c : Char) : Bool :=
  c.isAlphanum || c = '_'

/-- The number that digits spell in a base, none if one of them is no digit of it. -/
def digits? (base : Nat) (s : List Char) : Option Nat :=
  s.foldl (fun n c => do
    let n ← n
    let d ← Octets.hexValue? c
    if d < base then some (n * base + d) else none) (some 0)

/-- The value of a number without a sign. -/
def natural? (s : List Char) : Option Nat :=
  match s with
  | [] => none
  | '0' :: 'x' :: rest | '0' :: 'X' :: rest => if rest.isEmpty then none else digits? 16 rest
  | '0' :: rest => digits? 8 rest
  | s => digits? 10 s

/-- The value of a number. -/
def integer? (s : List Char) : Option Int :=
  match s with
  | '-' :: rest => (natural? rest).map fun n => -n
  | '+' :: rest => (natural? rest).map fun n => n
  | s => (natural? s).map fun n => n

/-- The text from the first character that is not blank. -/
def skipBlanks (s : List Char) : List Char :=
  s.dropWhile Char.isWhitespace

/-- Takes one of some operators. -/
def takeOperator (ops : List Operator) (s : List Char) : Option ((Int → Int → Int) × List Char) :=
  ops.findSome? fun (name, f) =>
    if name.toList.isPrefixOf s then some (f, s.drop name.length) else none

/-- Takes a number or a name. -/
def takeName (param : String → String) (s : List Char) : Option (Int × List Char) :=
  let name := s.takeWhile isNameChar
  let rest := s.drop name.length
  let value (name : List Char) : Option Int :=
    let v := (param (String.ofList name)).toList
    if v.isEmpty then some 0 else integer? v
  match name, rest with
  | [], _ => none
  | c :: _, rest =>
    (if c.isDigit then (natural? name).map fun n => (n : Int) else value name).map (·, rest)

/-- Takes what follows a dollar sign. -/
def takeDollar (param : String → String) (s : List Char) : Option (Int × List Char) :=
  match s with
  | '\x7b' :: rest =>
    let name := rest.takeWhile (· ≠ '\x7d')
    (integer? (param (String.ofList name)).toList).map (·, rest.drop (name.length + 1))
  | c :: rest =>
    if c.isDigit || c = '#' || c = '?' then
      (integer? (param (String.singleton c)).toList).map (·, rest)
    else takeName param s
  | [] => none

mutual

/-- Takes an operand. -/
def operand (param : String → String) : (fuel : Nat) → List Char → Option (Int × List Char)
  | 0, _ => none
  | fuel + 1, s =>
    match skipBlanks s with
    | '-' :: rest => (operand param fuel rest).map fun (n, rest) => (-n, rest)
    | '+' :: rest => operand param fuel rest
    | '!' :: rest => (operand param fuel rest).map fun (n, rest) => (truth (n = 0), rest)
    | '$' :: rest => takeDollar param rest
    | '(' :: rest =>
      match operation param fuel ranks rest with
      | some (n, rest) =>
        match skipBlanks rest with
        | ')' :: rest => some (n, rest)
        | _ => none
      | none => none
    | rest => takeName param rest

/-- Takes operands joined by operators of these ranks. -/
def operation (param : String → String) : (fuel : Nat) → List (List Operator) → List Char →
    Option (Int × List Char)
  | 0, _, _ => none
  | fuel + 1, [], s => operand param fuel s
  | fuel + 1, ops :: higher, s =>
    match operation param fuel higher s with
    | some (n, rest) => moreOf param fuel ops higher n rest
    | none => none

/-- Takes more operands of one rank, after those that have the value `n`. -/
def moreOf (param : String → String) : (fuel : Nat) → List Operator → List (List Operator) →
    (n : Int) → List Char → Option (Int × List Char)
  | 0, _, _, _, _ => none
  | fuel + 1, ops, higher, n, s =>
    match takeOperator ops (skipBlanks s) with
    | none => some (n, s)
    | some (f, rest) =>
      match operation param fuel higher rest with
      | some (m, rest) => moreOf param fuel ops higher (f n m) rest
      | none => none

end

/-- The value of an expression; an empty one counts as zero. -/
def eval? (param : String → String) (text : String) : Option Int :=
  let s := text.toList
  if (skipBlanks s).isEmpty then some 0
  else
    match operation param (16 * s.length + 16) ranks s with
    | some (n, rest) => if (skipBlanks rest).isEmpty then some n else none
    | none => none

end Switchyard.Rehearsal.Shell.Arithmetic
