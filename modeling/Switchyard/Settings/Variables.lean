import Switchyard.Settings.Flags

/-!
# Environment variables

A variable whose name begins with `CFGBUS_` sets the setting of the rest of its name, in any case;
two underscores, or a dot, lead to a member of a setting. Of several variables for one setting the
last one counts, also when they set different members.

A value spells a truth value, a number, a text in quotes, a list between brackets or members between
braces; a value that is none of them is a text as a whole. A text with commas that does not begin
with a bracket, a brace or a quote is a list of texts.
-/

namespace Switchyard.Settings.Variables

/-! ### Plain values -/

/-- Characters that end a plain value. -/
def isSeparator (c : Char) : Bool :=
  [',', '\x7b', '\x7d', '[', ']'].contains c

/-- Blanks of ASCII. -/
def isBlank (c : Char) : Bool :=
  [' ', '\t', '\n', '\r', '\x0c'].contains c

/-- Whether a text spells a number with a decimal point. -/
def isFraction (s : List Char) : Bool :=
  let unsigned := match s with | '+' :: rest | '-' :: rest => rest | s => s
  let whole := unsigned.takeWhile Char.isDigit
  match unsigned.drop whole.length with
  | '.' :: rest =>
    let part := rest.takeWhile Char.isDigit
    let exponent := match rest.drop part.length with
      | [] => true
      | e :: rest =>
        let digits := match rest with | '+' :: more | '-' :: more => more | more => more
        (e = 'e' || e = 'E') && !digits.isEmpty && digits.all Char.isDigit
    !(whole ++ part).isEmpty && exponent
  | _ => false

/-- The integer that a text spells. -/
def integer? (s : List Char) : Option Int :=
  let number (digits : List Char) : Option Int :=
    if digits.isEmpty then none else (Url.numberOf? 10 digits).map Int.ofNat
  match s with
  | '-' :: digits => (number digits).map fun n => -n
  | '+' :: digits => number digits
  | digits => number digits

/-- A plain value. What a fraction amounts to does not matter, for no setting takes one. -/
def scalar (s : List Char) : Json :=
  let s := trim s
  match (integer? s).bind Integer.ofInt? with
  | some n => .number (.integer n)
  | none => if isFraction s then .number (.double .zero) else .string (String.ofList s)

/-! ### Quoted texts -/

/-- Splits a text behind its opening quote at the closing one; a backslash keeps the character
behind it from being one. -/
def cutQuoted (acc : List Char) : List Char → Option (List Char × List Char)
  | [] => none
  | '"' :: rest => some (acc.reverse, rest)
  | '\\' :: c :: rest => cutQuoted (c :: '\\' :: acc) rest
  | c :: rest => cutQuoted (c :: acc) rest

/-- What a letter behind a backslash stands for. -/
def escapes : List (Char × Char) :=
  [('"', '"'), ('\\', '\\'), ('b', '\x08'), ('f', '\x0c'), ('n', '\n'), ('r', '\r'), ('t', '\t')]

/-- The character of so many hexadecimal digits. -/
def ofHex? (digits : List Char) (count : Nat) : Option Char :=
  if digits.length = count then
    (Url.numberOf? 16 digits).bind fun n =>
      if n.isValidChar then some (Char.ofNat n) else none
  else none

/-- The text between quotes, its escapes resolved. Apart from tabs it has no controls. -/
def unescape? : (fuel : Nat) → (acc : List Char) → List Char → Option String
  | 0, _, _ => none
  | _, acc, [] => some (String.ofList acc.reverse)
  | _, _, ['\\'] => none
  | fuel + 1, acc, '\\' :: c :: rest =>
    if c = 'u' then
      (ofHex? (rest.take 4) 4).bind fun x => unescape? fuel (x :: acc) (rest.drop 4)
    else if c = 'U' then
      (ofHex? (rest.take 8) 8).bind fun x => unescape? fuel (x :: acc) (rest.drop 8)
    else
      match escapes.find? (·.1 = c) with
      | some (_, x) => unescape? fuel (x :: acc) rest
      | none => none
  | fuel + 1, acc, c :: rest =>
    if c = '\t' ∨ (0x20 ≤ c.toNat ∧ c.toNat ≠ 0x7f) then unescape? fuel (c :: acc) rest else none

/-- A text behind its opening quote, and what follows it. -/
def quoted? (s : List Char) : Option (String × List Char) :=
  match cutQuoted [] s with
  | some (inside, rest) => (unescape? (inside.length + 1) [] inside).map fun t => (t, rest)
  | none => none

/-! ### Lists and members -/

/-- The name of a member and what follows its equals sign. -/
def memberName (s : List Char) : Option (String × List Char) :=
  let named : Option (String × List Char) := match s.dropWhile isBlank with
    | '"' :: rest => quoted? rest
    | s =>
      let name := s.takeWhile fun c => c.isAlphanum || c = '_' || c = '-'
      if name.isEmpty then none else some (String.ofList name, s.drop name.length)
  match named with
  | none => none
  | some (name, rest) =>
    match rest.dropWhile isBlank with
    | '=' :: rest => some (name, rest)
    | _ => none

/-- What follows a word at the front of a text. -/
def after? (word : String) (s : List Char) : Option (List Char) :=
  if word.toList.isPrefixOf s then some (s.drop word.length) else none

mutual

/-- Reads a value from the front of a text. -/
def readValue : (fuel : Nat) → List Char → Option (Json × List Char)
  | 0, _ => none
  | fuel + 1, s =>
    let s := s.dropWhile isBlank
    let read : Option (Json × List Char) :=
      match after? "true" s, after? "false" s with
      | some rest, _ => some (.bool true, rest)
      | none, some rest => some (.bool false, rest)
      | none, none =>
        match s with
        | '[' :: rest => (readList fuel [] rest).map fun (items, rest) => (.array items, rest)
        | '\x7b' :: rest =>
          (readMembers fuel [] rest).map fun (members, rest) => (.ofMembers members, rest)
        | '"' :: rest => (quoted? rest).map fun (t, rest) => (.string t, rest)
        | '\'' :: c :: '\'' :: rest => some (.string (String.ofList [c]), rest)
        | '\'' :: _ => none
        | s =>
          let bare := s.takeWhile fun c => !isSeparator c
          some (scalar bare, s.drop bare.length)
    read.map fun (j, rest) => (j, rest.dropWhile isBlank)

/-- Reads the items of a list, after its bracket. -/
def readList : (fuel : Nat) → List Json → List Char → Option (List Json × List Char)
  | 0, _, _ => none
  | _, acc, ']' :: rest => some (acc.reverse, rest)
  | fuel + 1, acc, s =>
    match readValue fuel s with
    | some (j, ',' :: rest) => readList fuel (j :: acc) rest
    | some (j, ']' :: rest) => some ((j :: acc).reverse, rest)
    | _ => none

/-- Reads members, after their brace. -/
def readMembers : (fuel : Nat) → Json.Members → List Char → Option (Json.Members × List Char)
  | 0, _, _ => none
  | _, acc, '\x7d' :: rest => some (acc.reverse, rest)
  | fuel + 1, acc, s =>
    match memberName s with
    | none => none
    | some (name, rest) =>
      match readValue fuel rest with
      | some (j, ',' :: rest) => readMembers fuel ((name, j) :: acc) rest
      | some (j, '\x7d' :: rest) => some (((name, j) :: acc).reverse, rest)
      | _ => none

end

/-- Whether a value is a list without brackets. -/
def isBareList (s : List Char) : Bool :=
  s.contains ',' && !(s.head?.any fun c => ['[', '\x7b', '"', '\''].contains c)

/-- The truth value that a whole text spells, in any case. -/
def truth? (s : List Char) : Option Bool :=
  let word := String.ofList (s.map Char.toLower)
  if word = "true" then some true else if word = "false" then some false else none

/-- The value that a text spells. -/
def value (text : String) : Json :=
  let s := trim text.toList
  if isBareList s then .array ((items s).map fun part => .string (String.ofList (trim part)))
  else
    match truth? s, readValue (2 * s.length + 2) s with
    | some b, _ => .bool b
    | none, some (j, []) => j
    | none, _ => .string (String.ofList s)

/-! ### Names -/

/-- What the names of all variables begin with. -/
def namePrefix : String := "cfgbus_"

/-- The parts of a name between dots and double underscores. -/
def nameParts : List Char → List (List Char)
  | [] => [[]]
  | '_' :: '_' :: rest => [] :: nameParts rest
  | c :: rest =>
    if c = '.' then [] :: nameParts rest
    else
      match nameParts rest with
      | [] => [[c]]
      | part :: more => (c :: part) :: more

/-- The setting that a variable sets, and the way to a member of it. A name with an empty part sets
nothing. -/
def settingOf? (variableName : String) : Option (List String) :=
  let name := (trim variableName.toList).map Char.toLower
  if namePrefix.toList.isPrefixOf name then
    let parts := nameParts (trim (name.drop namePrefix.length))
    if parts.any (·.isEmpty) then none else some (parts.map String.ofList)
  else none

/-- A value at the end of a way. -/
def nest (j : Json) : List String → Json
  | [] => j
  | key :: rest => .object [(key, nest j rest)]

/-- The settings that variables choose, as members of a document. -/
def chosen (environment : List (String × String)) : Json.Members :=
  environment.foldl (fun members (name, text) =>
    match settingOf? name with
    | some (key :: way) => Json.insertMember key (nest (value text) way) members
    | _ => members) []

end Switchyard.Settings.Variables
