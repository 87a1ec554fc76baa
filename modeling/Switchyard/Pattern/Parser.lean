import Switchyard.Pattern.Program
import Switchyard.Text.Folding
import Switchyard.Text.Property

/-!
# Reading patterns

The text of a pattern: characters stand for themselves except for `\ . + * ? ( ) | [ ] { } ^ $`.
There is no way back to what a group matched and no looking around.

* Flags are set for the rest of a group, `(?i)`, or for a group, `(?i:…)`: `i` ignores case, `m`
  lets `^` and `$` match at lines, `s` lets `.` match a line feed, `x` ignores blanks and comments,
  `U` swaps lazy and greedy, `R` lets a carriage return end a line.
* A class in brackets has ranges, named classes, classes inside it, and the operators `&&`, `--` and
  `~~` between sets.

* `\p` names characters by their properties. Without the flag `u`, only ASCII characters belong to
  the named classes, and nothing may match a part of a character.

A text that is no pattern is refused without a reason; so is one with too many levels of parts.
-/

namespace Switchyard.Pattern

/-- The flags in force. -/
structure Flags where
  ignoreCase : Bool
  lines : Bool
  dotAll : Bool
  spaced : Bool
  swapped : Bool
  returns : Bool
  /-- Whether the named classes hold characters beyond ASCII. -/
  wide : Bool

/-- The flags at the start of a pattern. -/
def Flags.initial : Flags :=
  ⟨false, false, false, false, false, false, true⟩

/-- What the reader keeps while it goes over a pattern. -/
structure Reader where
  flags : Flags
  /-- How many groups have begun. -/
  groups : Nat
  /-- The names of groups. -/
  names : List String

/-! ### Blanks and numbers -/

/-- The rest of a comment's line. -/
def skipComment : List Char → List Char
  | [] => []
  | c :: rest => if c = '\n' then rest else skipComment rest

theorem length_skipComment_le (s : List Char) : (skipComment s).length ≤ s.length := by
  induction s with
  | nil => exact Nat.le_refl _
  | cons c rest ih =>
    unfold skipComment
    split
    · exact Nat.le_succ _
    · exact Nat.le_succ_of_le ih

/-- Skips blanks and comments. -/
def skipSpace : List Char → List Char
  | [] => []
  | c :: rest =>
    if Text.isSpace c then skipSpace rest
    else if c = '#' then skipSpace (skipComment rest)
    else c :: rest
termination_by s => s.length
decreasing_by
  · exact Nat.lt_succ_self _
  · exact Nat.lt_succ_of_le (length_skipComment_le rest)

/-- Skips blanks and comments where they do not count. -/
def blanks (f : Flags) (s : List Char) : List Char :=
  if f.spaced then skipSpace s else s

/-- The largest number of repetitions. -/
def maxCount : Nat := 0xffffffff

/-- Takes a decimal number. -/
def takeNumber (f : Flags) (s : List Char) : Option (Option Nat × List Char) :=
  let (digits, rest) := takeDigits f s.length (s.dropWhile Text.isSpace)
  let rest := blanks f (rest.dropWhile Text.isSpace)
  if digits.isEmpty then some (none, rest)
  else
    let n := digits.foldl (fun n c => 10 * n + (c.toNat - '0'.toNat)) 0
    if n ≤ maxCount then some (some n, rest) else none
where
  /-- Takes decimal digits, with blanks between them where they do not count. -/
  takeDigits (f : Flags) : (fuel : Nat) → List Char → List Char × List Char
    | fuel + 1, c :: rest =>
      if c.isDigit then
        let (digits, rest) := takeDigits f fuel (blanks f rest)
        (c :: digits, rest)
      else ([], c :: rest)
    | _, s => ([], s)

/-- Takes what stands up to a closing brace, after the opening one; blanks in it are skipped where
they do not count. -/
def takeBraced (f : Flags) : (fuel : Nat) → List Char → Option (List Char × List Char)
  | 0, _ => none
  | fuel + 1, s =>
    match blanks f s with
    | [] => none
    | '\x7d' :: rest => some ([], rest)
    | c :: rest => (takeBraced f fuel rest).map fun (inside, rest) => (c :: inside, rest)

/-! ### Sets of characters -/

/-- A set of ASCII characters with the other case of its letters. -/
def asciiCaseless (s : CodeSet) : CodeSet :=
  let moved (part : CodeSet) (move : Nat → Nat) : CodeSet :=
    .ofRanges (part.ranges.map fun (a, b) => (move a, move b))
  .unions [s, moved (s.within 'A'.toNat 'Z'.toNat) (· + 32),
    moved (s.within 'a'.toNat 'z'.toNat) (· - 32)]

/-- A set, with the other cases of its members if case is ignored. -/
def folded (f : Flags) (s : CodeSet) : CodeSet :=
  if !f.ignoreCase then s else if f.wide then Text.caseless s else asciiCaseless s

/-- One character, with its other cases if case is ignored. -/
def literal (f : Flags) (c : Char) : CodeSet := folded f (.single c.toNat)

/-- Whether a letter names a set of characters after a backslash. -/
def isSetLetter (c : Char) : Bool := ['d', 's', 'w', 'D', 'S', 'W'].contains c

/-- The set that a letter names. Without characters beyond ASCII there are no complements, for they
would take parts of characters. -/
def letterSet? (f : Flags) (c : Char) : Option CodeSet :=
  let narrow (s : CodeSet) : CodeSet := if f.wide then s else s.within 0 0x7f
  let other (s : CodeSet) : Option CodeSet := if f.wide then some s.complement else none
  if c = 'd' then some (narrow Text.digitSet)
  else if c = 's' then some (narrow Text.spaceSet)
  else if c = 'w' then some (narrow Text.wordSet)
  else if c = 'D' then other Text.digitSet
  else if c = 'S' then other Text.spaceSet
  else if c = 'W' then other Text.wordSet
  else none

/-- The sets of ASCII characters with a name. -/
def asciiSets : List (String × List String) :=
  [("alnum", ["30-39 41-5a 61-7a"]), ("alpha", ["41-5a 61-7a"]), ("ascii", ["0-7f"]),
   ("blank", ["9 20"]), ("cntrl", ["0-1f 7f"]), ("digit", ["30-39"]), ("graph", ["21-7e"]),
   ("lower", ["61-7a"]), ("print", ["20-7e"]), ("punct", ["21-2f 3a-40 5b-60 7b-7e"]),
   ("space", ["9-d 20"]), ("upper", ["41-5a"]), ("word", ["30-39 41-5a 5f 61-7a"]),
   ("xdigit", ["30-39 41-46 61-66"])]

/-- Takes `[:name:]` or `[:^name:]` after its first bracket. -/
def takeAsciiSet? (f : Flags) : List Char → Option (CodeSet × List Char)
  | ':' :: s =>
    let negated := s.head? = some '^'
    let s := if negated then s.drop 1 else s
    let name := s.takeWhile Char.isAlpha
    match s.drop name.length with
    | ':' :: ']' :: rest =>
      (asciiSets.find? (·.1 = String.ofList name)).map fun (_, lines) =>
        let set := folded f (.ofLines lines)
        (if negated then set.complement else set, rest)
    | _ => none
  | _ => none

/-- What stands before and after the first place where a mark occurs. -/
def cutAt (mark : List Char) : List Char → Option (List Char × List Char)
  | [] => none
  | c :: rest =>
    if mark.isPrefixOf (c :: rest) then some ([], (c :: rest).drop mark.length)
    else (cutAt mark rest).map fun (before, after) => (c :: before, after)

/-- The characters with a property, which is named by a word, or by a kind and a value with `=`, `:`
or, for the characters that do not have it, `!=` between them. -/
def property? (f : Flags) (name : List Char) : Option CodeSet :=
  let valued (kind value : List Char) : Option CodeSet :=
    (Text.propertyValue? .sixteen (Text.looseName kind) (Text.looseName value)).map (folded f)
  match cutAt ['!', '='] name with
  | some (kind, value) => (valued kind value).map CodeSet.complement
  | none =>
    match (cutAt [':'] name).or (cutAt ['='] name) with
    | some (kind, value) => valued kind value
    | none => (Text.propertyNamed? .sixteen (Text.looseName name)).map (folded f)

/-- Takes the property after `\p`, or after `\P` if it is `negated`. -/
def takeProperty? (f : Flags) (negated : Bool) (s : List Char) : Option (CodeSet × List Char) :=
  let named : Option (List Char × List Char) :=
    match blanks f s with
    | '\x7b' :: rest => takeBraced f (rest.length + 1) rest
    | c :: rest => if c = '\\' then none else some ([c], rest)
    | [] => none
  match named with
  | some (name, rest) =>
    if f.wide then
      (property? f name).map fun s => (if negated then s.complement else s, rest)
    else none
  | none => none

/-! ### Escapes -/

/-- The characters that a backslash and a letter stand for. -/
def controls : List (Char × Nat) :=
  [('a', 7), ('f', 12), ('t', 9), ('n', 10), ('r', 13), ('v', 11)]

/-- The character of a code point, unless it is none. -/
def charOf? (n : Nat) : Option Char :=
  if n.isValidChar then some (Char.ofNat n) else none

/-- The value of a hexadecimal digit. -/
def hexValue? (c : Char) : Option Nat :=
  if c.isDigit then some (c.toNat - '0'.toNat)
  else if 'a' ≤ c ∧ c ≤ 'f' then some (c.toNat - 'a'.toNat + 10)
  else if 'A' ≤ c ∧ c ≤ 'F' then some (c.toNat - 'A'.toNat + 10)
  else none

/-- The number that hexadecimal digits spell. -/
def hexNumber? (digits : List Char) : Option Nat :=
  if digits.isEmpty then none
  else digits.foldl (fun n c => n.bind fun n => (hexValue? c).map (16 * n + ·)) (some 0)

/-- Takes so many hexadecimal digits. -/
def takeHexDigits (f : Flags) : Nat → List Char → Option (List Char × List Char)
  | 0, s => some ([], s)
  | n + 1, s =>
    match blanks f s with
    | [] => none
    | c :: rest => (takeHexDigits f n rest).map fun (digits, rest) => (c :: digits, rest)

/-- Takes the code point after `\x`, `\u` or `\U`: so many digits, or any number in braces. Without
characters beyond ASCII, two digits stand for an octet, which is a character only below 0x80. -/
def takeHex? (f : Flags) (width : Nat) (s : List Char) : Option (Char × List Char) :=
  let digits? := match blanks f s with
    | '\x7b' :: s => takeBraced f (s.length + 1) s
    | s => takeHexDigits f width s
  let isOctet := width = 2 && (blanks f s).head? != some '\x7b'
  match digits? with
  | some (digits, rest) =>
    match (hexNumber? digits).bind charOf? with
    | some c => if isOctet && !f.wide && 0x80 ≤ c.toNat then none else some (c, rest)
    | none => none
  | none => none

/-- Takes the character after a backslash, when it stands for a character. -/
def takeEscape? (f : Flags) : List Char → Option (Char × List Char)
  | [] => none
  | c :: rest =>
    if c = 'x' then takeHex? f 2 rest
    else if c = 'u' then takeHex? f 4 rest
    else if c = 'U' then takeHex? f 8 rest
    else
      match controls.find? (·.1 = c) with
      | some (_, n) => some (Char.ofNat n, rest)
      | none =>
        if c.toNat < 0x80 ∧ ¬c.isAlphanum ∧ c ≠ '<' ∧ c ≠ '>' then some (c, rest) else none

/-- The places that a name in braces after `\b` stands for. -/
def wordPlaces : List (String × WordPlace) :=
  [("start", .start), ("end", .finish), ("start-half", .startHalf), ("end-half", .finishHalf)]

/-- The conditions that a backslash and a letter stand for. Braces after `\b` hold the name of a
place unless they begin like a count. -/
def takeLook? (f : Flags) : List Char → Option (Option (Look × List Char))
  | 'A' :: rest => some (some (.textStart, rest))
  | 'z' :: rest => some (some (.textEnd, rest))
  | 'B' :: rest => some (some (.word f.wide .noEdge, rest))
  | '<' :: rest => some (some (.word f.wide .start, rest))
  | '>' :: rest => some (some (.word f.wide .finish, rest))
  | 'b' :: '\x7b' :: rest =>
    if (blanks f rest).head?.any fun c => c.isAlpha || c = '-' then
      match takeBraced f (rest.length + 1) rest with
      | some (name, after) =>
        (wordPlaces.find? (·.1 = String.ofList name)).map fun (_, place) =>
          some (.word f.wide place, after)
      | none => none
    else some (some (.word f.wide .edge, '\x7b' :: rest))
  | 'b' :: rest => some (some (.word f.wide .edge, rest))
  | _ => some none

/-! ### Classes in brackets -/

/-- An item of a class in brackets: one character, or a set. -/
inductive ClassItem where
  | one (c : Char)
  | many (s : CodeSet)

/-- Takes an item other than a class in brackets. -/
def takeItem? (f : Flags) : List Char → Option (ClassItem × List Char)
  | [] => none
  | '\\' :: s =>
    match s with
    | [] => none
    | c :: rest =>
      if isSetLetter c then (letterSet? f c).map fun s => (.many s, rest)
      else if c = 'p' ∨ c = 'P' then
        (takeProperty? f (c = 'P') rest).map fun (s, rest) => (.many s, rest)
      else (takeEscape? f s).bind fun (c, rest) => character f c rest
  | c :: rest => character f c rest
where
  /-- A character as an item. -/
  character (f : Flags) (c : Char) (rest : List Char) : Option (ClassItem × List Char) :=
    if f.wide || c.toNat < 0x80 then some (.one c, rest) else none

/-- The set of an item. -/
def ClassItem.toSet : ClassItem → CodeSet
  | one c => .single c.toNat
  | many s => s

/-- The items of a class in a row: what they amount to, how many there are, and how deeply classes
lie in them. -/
structure ClassItems where
  set : CodeSet
  count : Nat
  inner : Nat

namespace ClassItems

/-- No items. -/
def none : ClassItems := ⟨.empty, 0, 0⟩

/-- One more item. -/
def add (items : ClassItems) (s : CodeSet) (depth : Nat) : ClassItems :=
  ⟨items.set.union s, items.count + 1, max items.inner depth⟩

/-- How deeply classes lie in the items; several items are one level of their own. -/
def depth (items : ClassItems) : Nat :=
  if 2 ≤ items.count then items.inner + 1 else items.inner

end ClassItems

/-- An operator between sets. -/
inductive SetOp where
  | both | minus | symmetric

/-- The set that an operator makes of two. -/
def SetOp.apply : SetOp → CodeSet → CodeSet → CodeSet
  | both => .inter
  | minus => .minus
  | symmetric => .symmetric

/-- What stands left of a pending operator, and how deeply classes lie in it. -/
abbrev Pending := Option (CodeSet × Nat × SetOp)

/-- The set and the depth of items, with what a pending operator has on its left. -/
def joinSets (f : Flags) : Pending → ClassItems → CodeSet × Nat
  | some (left, depth, op), items =>
    (op.apply (folded f left) (folded f items.set), max depth items.depth + 1)
  | none, items => (items.set, items.depth)

/-- Takes the inside of a class after its opening bracket, `^` and leading dashes; `left` is what
stands before the latest operator, `acc` what has come since. -/
def takeClass? (f : Flags) : (fuel : Nat) → (left : Pending) → (acc : ClassItems) → List Char →
    Option (CodeSet × Nat × List Char)
  | 0, _, _, _ => none
  | fuel + 1, left, acc, s =>
    match blanks f s with
    | [] => none
    | ']' :: rest =>
      let (set, depth) := joinSets f left acc
      some (set, depth, rest)
    | '&' :: '&' :: rest => takeClass? f fuel (pending left acc .both) .none rest
    | '-' :: '-' :: rest => takeClass? f fuel (pending left acc .minus) .none rest
    | '~' :: '~' :: rest => takeClass? f fuel (pending left acc .symmetric) .none rest
    | '[' :: rest =>
      match takeAsciiSet? f rest with
      | some (s, rest) => takeClass? f fuel left (acc.add s 0) rest
      | none =>
        match openClass? fuel rest with
        | some (s, depth, rest) => takeClass? f fuel left (acc.add s depth) rest
        | none => none
    | s =>
      match takeItem? f s with
      | none => none
      | some (item, rest) =>
        match blanks f rest with
        | '-' :: after =>
          match blanks f after, item with
          | ']' :: _, _ | '-' :: _, _ =>
            takeClass? f fuel left (acc.add item.toSet 0) ('-' :: after)
          | s, .one low =>
            match takeItem? f s with
            | some (.one high, rest) =>
              if low ≤ high then
                takeClass? f fuel left (acc.add (.range low.toNat high.toNat) 0) rest
              else none
            | _ => none
          | _, .many _ => none
        | rest => takeClass? f fuel left (acc.add item.toSet 0) rest
where
  /-- An operator that waits for its right side. -/
  pending (left : Pending) (acc : ClassItems) (op : SetOp) : Pending :=
    let (set, depth) := joinSets f left acc
    some (set, depth, op)
  /-- Takes the dashes that begin a class. -/
  dashes (fuel : Nat) (acc : ClassItems) (s : List Char) : ClassItems × List Char :=
    match fuel, blanks f s with
    | fuel + 1, '-' :: rest => dashes fuel (acc.add (.single '-'.toNat) 0) rest
    | _, s => (acc, s)
  /-- Takes a class after its opening bracket, with its depth. -/
  openClass? (fuel : Nat) (s : List Char) : Option (CodeSet × Nat × List Char) :=
    match fuel with
    | 0 => none
    | fuel + 1 =>
      let s := blanks f s
      let negated := s.head? = some '^'
      let (acc, s) := dashes s.length .none (if negated then s.drop 1 else s)
      let (acc, s) := match s with
        | ']' :: rest => if acc.count = 0 then (acc.add (.single ']'.toNat) 0, rest) else (acc, s)
        | s => (acc, s)
      match takeClass? f fuel none acc s with
      | none => none
      | some (set, depth, rest) =>
        let set := folded f set
        let set := if negated then set.complement else set
        if f.wide || set.below 0x80 then some (set, depth + 1, rest) else none

/-! ### Flags and names -/

/-- Sets a flag. -/
def setFlag? (on : Bool) (f : Flags) : Char → Option Flags
  | 'i' => some { f with ignoreCase := on }
  | 'm' => some { f with lines := on }
  | 's' => some { f with dotAll := on }
  | 'x' => some { f with spaced := on }
  | 'U' => some { f with swapped := on }
  | 'R' => some { f with returns := on }
  | 'u' => some { f with wide := on }
  | _ => none

/-- Takes flags up to `:` or `)`, each at most once, with at most one minus that is followed by a
flag. -/
def takeFlags? (f : Flags) (on : Bool) (seen : List Char) :
    List Char → Option (Flags × Char × List Char)
  | [] => none
  | c :: rest =>
    if c = ':' ∨ c = ')' then if seen.head? = some '-' then none else some (f, c, rest)
    else if seen.contains c then none
    else if c = '-' then takeFlags? f false ('-' :: seen) rest
    else
      match setFlag? on f c with
      | some f => takeFlags? f on (c :: seen) rest
      | none => none

/-- Takes the name of a group up to `>`. -/
def takeName? (names : List String) (s : List Char) : Option (String × List Char) :=
  let name := s.takeWhile (· ≠ '>')
  let allowed (c : Char) : Bool :=
    ['_', '.', '[', ']'].contains c || Text.isAlphabetic c || Text.isNumeric c
  match name, s.drop name.length with
  | c :: more, _ :: rest =>
    let text := String.ofList name
    if (c = '_' || Text.isAlphabetic c) && more.all allowed && !names.contains text then
      some (text, rest)
    else none
  | _, _ => none

/-! ### Patterns -/

/-- The condition of `^`. -/
def startLook (f : Flags) : Look :=
  if !f.lines then .textStart else if f.returns then .lineStartReturn else .lineStart

/-- The condition of `$`. -/
def endLook (f : Flags) : Look :=
  if !f.lines then .textEnd else if f.returns then .lineEndReturn else .lineEnd

/-- The set of `.`; without characters beyond ASCII it would take parts of characters. -/
def dotSet? (f : Flags) : Option CodeSet :=
  if !f.wide then none
  else if f.dotAll then some .all
  else if f.returns then some (CodeSet.ofCodes [0xa, 0xd]).complement
  else some (CodeSet.single 0xa).complement

/-- A part of a pattern, and how many levels of parts lie in it. -/
structure Part where
  pattern : Pattern
  depth : Nat

/-- How many levels of parts a pattern may have. -/
def maxDepth : Nat := 250

/-- Takes an atom that is neither a group nor a repetition. -/
def takeAtom? (f : Flags) (fuel : Nat) : List Char → Option (Part × List Char)
  | [] => none
  | '.' :: rest => (dotSet? f).map fun s => (⟨.char s, 0⟩, rest)
  | '^' :: rest => some (⟨.look (startLook f), 0⟩, rest)
  | '$' :: rest => some (⟨.look (endLook f), 0⟩, rest)
  | '[' :: rest =>
    (takeClass?.openClass? f fuel rest).map fun (s, depth, rest) => (⟨.char s, depth⟩, rest)
  | '\\' :: s =>
    match takeLook? f s with
    | none => none
    | some (some (l, rest)) => some (⟨.look l, 0⟩, rest)
    | some none =>
      match s with
      | [] => none
      | c :: rest =>
        if isSetLetter c then (letterSet? f c).map fun s => (⟨.char s, 0⟩, rest)
        else if c = 'p' ∨ c = 'P' then
          (takeProperty? f (c = 'P') rest).map fun (s, rest) => (⟨.char s, 0⟩, rest)
        else (takeEscape? f s).map fun (c, rest) => (⟨.char (literal f c), 0⟩, rest)
  | c :: rest => some (⟨.char (literal f c), 0⟩, rest)

/-- Takes how often the part before is repeated, after `{`. -/
def takeCounts? (f : Flags) (s : List Char) : Option (Nat × Option Nat × List Char) :=
  match takeNumber f s with
  | some (some least, ',' :: rest) =>
    match takeNumber f (blanks f rest) with
    | some (most, '\x7d' :: rest) =>
      if most.all (least ≤ ·) then some (least, most, rest) else none
    | _ => none
  | some (some least, '\x7d' :: rest) => some (least, some least, rest)
  | _ => none

/-- A repetition: how often at least and at most, and whether a `?` asks for the other order. -/
structure Repetition where
  least : Nat
  most : Option Nat
  asked : Bool

/-- Takes a repetition. Only behind a count may blanks come before the `?`. -/
def takeRepetition? (f : Flags) : List Char → Option (Option (Repetition × List Char))
  | '*' :: rest => some (some (asking 0 none rest))
  | '+' :: rest => some (some (asking 1 none rest))
  | '?' :: rest => some (some (asking 0 (some 1) rest))
  | '\x7b' :: rest =>
    (takeCounts? f rest).map fun (least, most, rest) => some (asking least most (blanks f rest))
  | _ => some none
where
  /-- The repetition with the `?` that may follow. -/
  asking (least : Nat) (most : Option Nat) (rest : List Char) : Repetition × List Char :=
    match rest with
    | '?' :: rest => (⟨least, most, true⟩, rest)
    | rest => (⟨least, most, false⟩, rest)

/-- Several parts in a row, or several branches, are one level of their own. -/
def levelOf (depths : List Nat) : Nat :=
  let inner := depths.foldl max 0
  if 2 ≤ depths.length then inner + 1 else inner

/-- The parts of a branch one after the other; the last one comes first in the list, and `none`
stands for a change of flags. -/
def joinItems (items : List (Option Part)) : Part :=
  let pattern := match items.reverse.filterMap id with
    | [] => .empty
    | p :: rest => rest.foldl (fun p q => .append p q.pattern) p.pattern
  ⟨pattern, levelOf (items.map fun item => (item.map (·.depth)).getD 0)⟩

/-- The branches of a choice; the last one comes first in the list. -/
def joinBranches (done : List Part) (last : Part) : Part :=
  ⟨done.foldl (fun p branch => .either branch.pattern p) last.pattern,
    levelOf ((last :: done).map (·.depth))⟩

/-- Takes the branches of a group up to its closing parenthesis, or to the end. -/
def takeBranches? : (fuel : Nat) → Reader → (done : List Part) → (items : List (Option Part)) →
    List Char → Option (Part × Reader × List Char)
  | 0, _, _, _, _ => none
  | fuel + 1, r, done, items, s =>
    match blanks r.flags s with
    | [] => some (joinBranches done (joinItems items), r, [])
    | ')' :: rest => some (joinBranches done (joinItems items), r, ')' :: rest)
    | '|' :: rest => takeBranches? fuel r (joinItems items :: done) [] rest
    | '(' :: rest =>
      match takeGroup? fuel r rest with
      | some (item, r, rest) => takeBranches? fuel r done (item :: items) rest
      | none => none
    | s =>
      match takeRepetition? r.flags s with
      | none => none
      | some (some (repetition, rest)) =>
        match items with
        | some p :: items =>
          let lazy := repetition.asked != r.flags.swapped
          let pattern := times p.pattern repetition.least repetition.most lazy
          takeBranches? fuel r done (some ⟨pattern, p.depth + 1⟩ :: items) rest
        | _ => none
      | some none =>
        match takeAtom? r.flags fuel s with
        | some (p, rest) => takeBranches? fuel r done (some p :: items) rest
        | none => none
where
  /-- Takes the inside of a group with other flags, and goes on with those before. -/
  takeInside? (fuel : Nat) (r : Reader) (inside : Flags) (s : List Char) :
      Option (Part × Reader × List Char) :=
    match fuel with
    | 0 => none
    | fuel + 1 =>
      match takeBranches? fuel { r with flags := inside } [] [] s with
      | some (p, after, ')' :: rest) =>
        some (⟨p.pattern, p.depth + 1⟩, { after with flags := r.flags }, rest)
      | _ => none
  /-- Takes a numbered group. -/
  takeNumbered? (fuel : Nat) (r : Reader) (s : List Char) :
      Option (Option Part × Reader × List Char) :=
    match fuel with
    | 0 => none
    | fuel + 1 =>
      (takeInside? fuel { r with groups := r.groups + 1 } r.flags s).map fun (p, after, rest) =>
        (some ⟨.group (r.groups + 1) p.pattern, p.depth⟩, after, rest)
  /-- Takes a group after its opening parenthesis; one that only changes flags is no part. -/
  takeGroup? (fuel : Nat) (r : Reader) (s : List Char) :
      Option (Option Part × Reader × List Char) :=
    match fuel with
    | 0 => none
    | fuel + 1 =>
      let named (s : List Char) :=
        (takeName? r.names s).bind fun (name, rest) =>
          takeNumbered? fuel { r with names := name :: r.names } rest
      match blanks r.flags s with
      | '?' :: 'P' :: '<' :: rest => named rest
      | '?' :: '<' :: rest => named rest
      | '?' :: rest =>
        match takeFlags? r.flags true [] rest with
        | some (f, ':', rest) =>
          (takeInside? fuel r f rest).map fun (p, after, rest) => (some p, after, rest)
        | some (f, _, after) =>
          if rest.head? = some ')' then none else some (none, { r with flags := f }, after)
        | none => none
      | s => takeNumbered? fuel r s

/-- Reads a pattern with these flags at its start. -/
def parse? (f : Flags) (text : String) : Option Pattern :=
  let s := text.toList
  match takeBranches? (5 * s.length + 5) ⟨f, 0, []⟩ [] [] s with
  | some (p, _, []) => if p.depth ≤ maxDepth then some p.pattern else none
  | _ => none

/-- The program of a pattern text; none if it is no pattern. -/
def ofText? (text : String) : Option Program :=
  (parse? .initial text).bind program?

/-- The same, with `^` and `$` at lines. -/
def ofLinesText? (text : String) : Option Program :=
  (parse? { Flags.initial with lines := true } text).bind program?

end Switchyard.Pattern
