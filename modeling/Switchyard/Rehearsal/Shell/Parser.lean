import Switchyard.Rehearsal.Shell.Arithmetic
import Switchyard.Rehearsal.Shell.Basic

/-!
# Reading scripts

A script is cut into words and operators, then the operators are read with their ranks: pipes bind
more than `&&` and `||`, these more than `;` and `&`. Reserved words count only where a command may
begin.

A script that cannot be read is refused with the token that does not fit and, inside a construct,
what was expected there.

Only children in rehearsals read scripts. To the daemon a script is one of the texts in a command
line.
-/

namespace Switchyard.Rehearsal.Shell

/-- A part of a script. -/
inductive Token where
  /-- A word, its text if it is written without quotation marks and parameters, and its line. -/
  | word (w : Word) (plain : Option String) (line : Nat)
  | op (s : String)
  /-- The descriptor of a redirection and its operator. -/
  | redirect (descriptor : Nat) (op : String)
  /-- A quotation or a substitution that has no end. -/
  | unterminated (message : String)
  deriving Inhabited

/-! ### Words -/

/-- Adds a character to the last piece of a word, in reverse. -/
def pushChar (c : Char) : Word → Word
  | .text s :: rest => .text (s.push c) :: rest
  | rest => .text (String.singleton c) :: rest

/-- Takes the inside of parentheses, onto `acc` in reverse, up to the one that closes the outermost
of `depth` open ones. Inside quotation marks (`quote`) parentheses do not count. -/
def takeParens : (depth : Nat) → (quote : Option Char) → (acc : List Char) → List Char →
    Option (List Char × List Char)
  | _, _, _, [] => none
  | depth, some q, acc, c :: rest =>
    takeParens depth (if c = q then none else some q) (c :: acc) rest
  | depth, none, acc, c :: rest =>
    if c = ')' ∧ depth ≤ 1 then some (acc.reverse, rest)
    else
      takeParens (if c = '(' then depth + 1 else if c = ')' then depth - 1 else depth)
        (if c = '\'' ∨ c = '"' then some c else none) (c :: acc) rest

/-- The piece for the inside of parentheses after a dollar sign. -/
def parensPiece (inside : List Char) (quoted : Bool) : Piece :=
  match inside, inside.getLast? with
  | '(' :: expression, some ')' => .number (String.ofList expression.dropLast)
  | _, _ => .output (String.ofList inside) quoted

/-- What a dollar sign or a backquote begins. -/
inductive Taken where
  | piece (p : Piece) (rest : List Char)
  /-- The sign stands for itself. -/
  | nothing
  | unterminated

/-- Takes what follows a dollar sign. -/
def takeDollar (quoted : Bool) (s : List Char) : Taken :=
  match s with
  | '(' :: rest =>
    match takeParens 1 none [] rest with
    | some (inside, rest) => .piece (parensPiece inside quoted) rest
    | none => .unterminated
  | '\x7b' :: rest =>
    let name := rest.takeWhile (· ≠ '\x7d')
    if name.length = rest.length then .unterminated
    else .piece (.param (String.ofList name) quoted) (rest.drop (name.length + 1))
  | c :: rest =>
    if c.isDigit ∨ "#?$@*!".toList.contains c then
      .piece (.param (String.singleton c) quoted) rest
    else if Arithmetic.isNameChar c then
      let name := s.takeWhile Arithmetic.isNameChar
      .piece (.param (String.ofList name) quoted) (s.drop name.length)
    else .nothing
  | [] => .nothing

/-- The backquote. -/
def backquote : Char := Char.ofNat 0x60

/-- Takes what follows a backquote, up to the next one. -/
def takeBackquoted (quoted : Bool) (s : List Char) : Taken :=
  let inside := s.takeWhile (· ≠ backquote)
  if inside.length = s.length then .unterminated
  else .piece (.output (String.ofList inside) quoted) (s.drop (inside.length + 1))

/-- Takes what a character begins, if it is a dollar sign or a backquote. -/
def takeSpecial (quoted : Bool) (c : Char) (s : List Char) : Taken :=
  if c = '$' then takeDollar quoted s
  else if c = backquote then takeBackquoted quoted s
  else .nothing

/-- The characters that a backslash takes the meaning of inside quotation marks. -/
def isEscapedInQuotes (c : Char) : Bool :=
  c = '$' || c = '"' || c = '\\' || c = backquote

/-- Takes the inside of double quotation marks, onto the reversed word. -/
def takeDouble : (fuel : Nat) → Word → List Char → Option (Word × List Char)
  | 0, _, _ => none
  | _, _, [] => none
  | fuel + 1, w, c :: rest =>
    if c = '"' then some (w, rest)
    else if c = '\\' then
      match rest with
      | d :: rest =>
        if isEscapedInQuotes d then takeDouble fuel (pushChar d w) rest
        else if d = '\n' then takeDouble fuel w rest
        else takeDouble fuel (pushChar d (pushChar c w)) rest
      | [] => none
    else
      match takeSpecial true c rest with
      | .piece p rest => takeDouble fuel (p :: w) rest
      | .nothing => takeDouble fuel (pushChar c w) rest
      | .unterminated => none

/-- Whether a character ends a word. -/
def endsWord (c : Char) : Bool :=
  " \t\n;&|<>()".toList.contains c

/-- Takes a word, onto the reversed pieces before; `plain` holds while nothing was quoted. -/
def takeWord : (fuel : Nat) → (plain : Bool) → Word → List Char →
    Option (Word × Bool × List Char)
  | 0, _, _, _ => none
  | _, plain, w, [] => some (w.reverse, plain, [])
  | fuel + 1, plain, w, c :: rest =>
    if endsWord c then some (w.reverse, plain, c :: rest)
    else if c = '\'' then
      let inside := rest.takeWhile (· ≠ '\'')
      if inside.length = rest.length then none
      else
        takeWord fuel false (.text (String.ofList inside) :: w) (rest.drop (inside.length + 1))
    else if c = '"' then
      match takeDouble fuel (.text "" :: w) rest with
      | some (w, rest) => takeWord fuel false w rest
      | none => none
    else if c = '\\' then
      match rest with
      | '\n' :: rest => takeWord fuel plain w rest
      | d :: rest => takeWord fuel false (pushChar d w) rest
      | [] => takeWord fuel false (pushChar c w) []
    else
      match takeSpecial false c rest with
      | .piece p rest => takeWord fuel false (p :: w) rest
      | .nothing => takeWord fuel plain (pushChar c w) rest
      | .unterminated => none

/-- The text of a word without quotation marks and parameters. -/
def plainText : Word → String
  | [.text s] => s
  | _ => ""

/-- Takes an operator. -/
def takeOperator (s : List Char) : Option (Token × List Char) :=
  match s with
  | '&' :: '&' :: rest => some (.op "&&", rest)
  | '|' :: '|' :: rest => some (.op "||", rest)
  | ';' :: ';' :: rest => some (.op ";;", rest)
  | '>' :: '>' :: rest => some (.redirect 1 ">", rest)
  | '>' :: '&' :: rest => some (.redirect 1 ">&", rest)
  | '<' :: '&' :: rest => some (.redirect 0 "<&", rest)
  | '>' :: rest => some (.redirect 1 ">", rest)
  | '<' :: rest => some (.redirect 0 "<", rest)
  | c :: rest =>
    if ";&|()\n".toList.contains c then some (.op (String.singleton c), rest) else none
  | [] => none

/-- How many line breaks a text has. -/
def breaks (s : List Char) : Nat :=
  s.count '\n'

/-- The words and operators of a script, from some line on. -/
def tokens : (fuel line : Nat) → List Char → List Token
  | 0, _, _ => []
  | _, _, [] => []
  | fuel + 1, line, c :: rest =>
    if c = ' ' ∨ c = '\t' then tokens fuel line rest
    else if c = '#' then tokens fuel line (rest.dropWhile (· ≠ '\n'))
    else
      match takeOperator (c :: rest) with
      | some (t, rest) => t :: tokens fuel (if c = '\n' then line + 1 else line) rest
      | none =>
        match takeWord (rest.length + 2) true [] (c :: rest) with
        | none => [.unterminated "Unterminated quoted string"]
        | some (w, plain, after) =>
          let text := if plain then some (plainText w) else none
          let next := line + (breaks (c :: rest) - breaks after)
          let others (_ : Unit) := Token.word w text line :: tokens fuel next after
          match text.bind String.toNat?, after with
          | some n, d :: _ =>
            if d = '<' ∨ d = '>' then
              match takeOperator after with
              | some (.redirect _ op, rest) => .redirect n op :: tokens fuel next rest
              | _ => others ()
            else others ()
          | _, _ => others ()

/-! ### Commands -/

/-- The words that are reserved where a command may begin. -/
def reserved : List String :=
  ["!", "\x7b", "\x7d", "if", "then", "elif", "else", "fi", "for", "while", "until", "do", "done",
    "case", "esac"]

/-- Whether a token is this word without quotation marks. -/
def Token.isPlain (s : String) : Token → Bool
  | .word _ (some t) _ => t = s
  | _ => false

/-- Whether a token is this operator. -/
def Token.isOp (s : String) : Token → Bool
  | .op t => t = s
  | _ => false

/-- What a token is called in a message. -/
def Token.title : Token → String
  | .word _ (some t) _ => if reserved.contains t then "\"" ++ t ++ "\"" else "word"
  | .word .. => "word"
  | .op s => if s = "\n" then "newline" else "\"" ++ s ++ "\""
  | .redirect .. => "redirection"
  | .unterminated message => message

/-- Why tokens cannot be read on, where something may have been expected. -/
def unexpected (expected : Option String) (ts : List Token) : String :=
  match ts with
  | .unterminated message :: _ => message
  | ts =>
    ((ts.head?.map Token.title).getD "end of file") ++ " unexpected" ++
      ((expected.map fun e => " (expecting \"" ++ e ++ "\")").getD "")

/-- What was read, and the tokens after it; or what is wrong. -/
abbrev Parsed := Except String (Script × List Token)

/-- The redirection that an operator and a word make. -/
def redirectTo (descriptor : Nat) (op : String) (w : Word) : Redirect :=
  match (if op = ">&" ∨ op = "<&" then (plainText w).toNat? else none) with
  | some n => ⟨descriptor, .descriptor n⟩
  | none => ⟨descriptor, .file w⟩

/-- The assignment that a word is. -/
def assignment? : Word → Option (String × Word)
  | .text s :: rest =>
    let name := s.toList.takeWhile (· ≠ '=')
    match s.toList.drop name.length with
    | _ :: value =>
      if name.head?.any (fun c => Arithmetic.isNameChar c && !c.isDigit) &&
          name.all Arithmetic.isNameChar then
        some (String.ofList name, .text (String.ofList value) :: rest)
      else none
    | [] => none
  | _ => none

/-- Takes the words and redirections of a simple command. -/
def takeSimple (line : Nat) (sets : List (String × Word)) (words : List Word)
    (redirects : List Redirect) : List Token → Parsed
  | .redirect d op :: .word w _ _ :: rest =>
    takeSimple line sets words (redirectTo d op w :: redirects) rest
  | .redirect .. :: rest => .error (unexpected none rest)
  | .word w _ _ :: rest =>
    match (if words.isEmpty then assignment? w else none) with
    | some a => takeSimple line (a :: sets) words redirects rest
    | none => takeSimple line sets (w :: words) redirects rest
  | rest => .ok (.simple line sets.reverse words.reverse redirects.reverse, rest)

/-- Takes redirections. -/
def takeRedirects (acc : List Redirect) : List Token → List Redirect × List Token
  | .redirect d op :: .word w _ _ :: rest => takeRedirects (redirectTo d op w :: acc) rest
  | rest => (acc.reverse, rest)

/-- The words up to the end of a list. -/
def takeWords (acc : List Word) : List Token → List Word × List Token
  | .word w _ _ :: rest => takeWords (w :: acc) rest
  | rest => (acc.reverse, rest)

/-- Skips line breaks. -/
def skipBreaks : List Token → List Token
  | .op "\n" :: rest => skipBreaks rest
  | rest => rest

/-- Takes a reserved word. -/
def takeReserved (w : String) (ts : List Token) : Except String (List Token) :=
  match skipBreaks ts with
  | t :: rest => if t.isPlain w then .ok rest else .error (unexpected (some w) (t :: rest))
  | [] => .error (unexpected (some w) [])

/-- Whether a list of commands ends here. -/
def endsList : List Token → Bool
  | [] => true
  | t :: _ =>
    t.isOp ")" || t.isOp ";;" ||
      ["\x7d", "then", "elif", "else", "fi", "do", "done", "esac"].any t.isPlain

/-- Takes the words that a loop goes over; the arguments of the shell if there are none. -/
def takeRange (ts : List Token) : List Word × List Token :=
  match skipBreaks ts with
  | t :: rest =>
    let (words, rest) :=
      if t.isPlain "in" then takeWords [] rest else ([[.param "@" true]], t :: rest)
    match rest with
    | .op ";" :: rest => (words, rest)
    | rest => (words, rest)
  | [] => ([], [])

mutual

/-- Takes one command. -/
def takeCommand : (fuel : Nat) → List Token → Parsed
  | 0, ts => .error (unexpected none ts)
  | fuel + 1, ts =>
    match ts with
    | [] => .error (unexpected none [])
    | t :: rest =>
      if t.isPlain "!" then do
        let (a, rest) ← takeCommand fuel rest
        return (.negate a, rest)
      else if t.isOp "(" then do
        let (a, rest) ← takeBody fuel rest
        match rest with
        | .op ")" :: rest =>
          let (redirects, rest) := takeRedirects [] rest
          return (.group true a redirects, rest)
        | rest => throw (unexpected (some ")") rest)
      else if t.isPlain "\x7b" then do
        let (a, rest) ← takeBody fuel rest
        let (redirects, rest) := takeRedirects [] (← takeReserved "\x7d" rest)
        return (.group false a redirects, rest)
      else if t.isPlain "if" then takeChoice fuel rest
      else if t.isPlain "while" then takeLoop fuel true rest
      else if t.isPlain "until" then takeLoop fuel false rest
      else if t.isPlain "for" then
        match rest with
        | .word _ (some name) _ :: rest => do
          let (words, rest) := takeRange rest
          let (body, rest) ← takeBody fuel (← takeReserved "do" rest)
          let (redirects, rest) := takeRedirects [] (← takeReserved "done" rest)
          return (.group false (.each name words body) redirects, rest)
        | _ => .error "Bad for loop variable"
      else
        match t with
        | .op _ => .error (unexpected none ts)
        | .word _ (some w) line =>
          if reserved.contains w then .error (unexpected none ts)
          else takeSimple line [] [] [] ts
        | .word _ none line => takeSimple line [] [] [] ts
        | _ => takeSimple 1 [] [] [] ts

/-- Takes a choice, after its first word. -/
def takeChoice : (fuel : Nat) → List Token → Parsed
  | 0, ts => .error (unexpected none ts)
  | fuel + 1, ts => do
    let (test, rest) ← takeBody fuel ts
    let (yes, rest) ← takeBody fuel (← takeReserved "then" rest)
    match rest with
    | t :: rest =>
      if t.isPlain "elif" then
        let (no, rest) ← takeChoice fuel rest
        return (.choice test yes no, rest)
      else if t.isPlain "else" then
        let (no, rest) ← takeBody fuel rest
        let (redirects, rest) := takeRedirects [] (← takeReserved "fi" rest)
        return (.group false (.choice test yes no) redirects, rest)
      else
        let (redirects, rest) := takeRedirects [] (← takeReserved "fi" (t :: rest))
        return (.group false (.choice test yes .skip) redirects, rest)
    | [] => throw (unexpected (some "fi") [])

/-- Takes a loop, after its first word. -/
def takeLoop : (fuel : Nat) → (succeeds : Bool) → List Token → Parsed
  | 0, _, ts => .error (unexpected none ts)
  | fuel + 1, succeeds, ts => do
    let (test, rest) ← takeBody fuel ts
    let (body, rest) ← takeBody fuel (← takeReserved "do" rest)
    let (redirects, rest) := takeRedirects [] (← takeReserved "done" rest)
    return (.group false (.whilst succeeds test body) redirects, rest)

/-- Takes a list that is not empty. -/
def takeBody : (fuel : Nat) → List Token → Parsed
  | 0, ts => .error (unexpected none ts)
  | fuel + 1, ts =>
    let ts := skipBreaks ts
    if endsList ts then .error (unexpected none ts) else takeList fuel ts

/-- Takes commands joined by pipes. -/
def takePipe : (fuel : Nat) → List Token → Parsed
  | 0, ts => .error (unexpected none ts)
  | fuel + 1, ts => do
    let (a, rest) ← takeCommand fuel ts
    match rest with
    | .op "|" :: rest =>
      let (b, rest) ← takePipe fuel (skipBreaks rest)
      return (.pipe a b, rest)
    | rest => return (a, rest)

/-- Takes commands joined by `&&` and `||`, after the first of them. -/
def takeConditions : (fuel : Nat) → Script → List Token → Parsed
  | 0, _, ts => .error (unexpected none ts)
  | fuel + 1, a, ts =>
    match ts with
    | .op "&&" :: rest => do
      let (b, rest) ← takePipe fuel (skipBreaks rest)
      takeConditions fuel (.andThen a b) rest
    | .op "||" :: rest => do
      let (b, rest) ← takePipe fuel (skipBreaks rest)
      takeConditions fuel (.orElse a b) rest
    | rest => .ok (a, rest)

/-- Takes commands up to the end of a list. -/
def takeList : (fuel : Nat) → List Token → Parsed
  | 0, ts => .error (unexpected none ts)
  | fuel + 1, ts =>
    let ts := skipBreaks ts
    if endsList ts then .ok (.skip, ts)
    else do
      let (a, rest) ← takePipe fuel ts
      let (a, rest) ← takeConditions fuel a rest
      match rest with
      | .op "&" :: rest =>
        let (b, rest) ← takeList fuel rest
        return (.sequence (.background a) b, rest)
      | .op ";" :: rest | .op "\n" :: rest =>
        let (b, rest) ← takeList fuel rest
        return (.sequence a b, rest)
      | rest => return (a, rest)

end

/-- Reads a script, or says what is wrong and in which line. -/
def parse (text : String) : Except (Nat × String) Script :=
  let s := text.toList
  let ts := tokens (s.length + 1) 1 s
  let last := breaks s + 1
  match takeList (16 * ts.length + 16) ts with
  | .ok (a, []) => .ok a
  | .ok (_, rest) => .error (last, unexpected none rest)
  | .error e => .error (last, e)

end Switchyard.Rehearsal.Shell
