import Switchyard.Json.Reader

/-!
# Typed reading

A `Decoder α` reads an `α` in two ways that accept the same values: from text, in one pass and with
places in its faults, and from a value that has been read already.

* `Decoder.string`, `bool`, `number` and `any` read scalars and free values.
* `Decoder.option` takes `null` for an absent value, `list` a list of items.
* `Decoder.choice` reads one of a set of names.
* `Decoder.record` reads a record: an object whose unknown members are passed over and whose known
  ones may not be repeated, or a list of the fields in their order.
-/

namespace Switchyard.Json

/-- How a type is read from text and from a value. In text, `fuel` exceeds the unread bytes and
`depth` counts the containers that may still be opened. -/
structure Decoder (α : Type) where
  text : (fuel depth : Nat) → Octets → Except Fault (α × Octets)
  value : Json → Except Cause α

/-- Something else stands where `expected` was wanted: scalars are read to say what they are. -/
def unexpected (fuel : Nat) (expected : String) (s : Octets) : Fault :=
  let told (r : Except Fault (Found × Octets)) : Fault :=
    match r with
    | .ok (found, rest) => .here (.wrongType found expected) rest
    | .error f => f
  match s with
  | [] => .next .expectedValue []
  | b :: rest =>
    if b = 0x6E then told do return (.null, ← readWord (ascii "ull") rest)
    else if b = 0x74 then told do return (.bool true, ← readWord (ascii "rue") rest)
    else if b = 0x66 then told do return (.bool false, ← readWord (ascii "alse") rest)
    else if b = 0x2D then told do
      let (n, rest) ← readNumber true rest
      return (.number n, rest)
    else if isDigit b then told do
      let (n, rest) ← readNumber false s
      return (.number n, rest)
    else if b = 0x22 then told do
      let (t, rest) ← readString fuel rest
      return (.string t, rest)
    else if b = 0x5B then .here (.wrongType .sequence expected) s
    else if b = 0x7B then .here (.wrongType .map expected) s
    else .next .expectedValue s

namespace Decoder

variable {α β : Type}

/-- Any value. -/
def any : Decoder Json where
  text := readValue
  value := .ok

/-- A string, called `expected` in faults, that `accept` takes. -/
def textual (expected : String) (accept : String → Except Cause α) : Decoder α where
  text fuel _ s :=
    match skipBlanks s with
    | [] => .error (.next .eofValue [])
    | b :: rest =>
      if b = 0x22 then do
        let (t, rest) ← readString fuel rest
        match accept t with
        | .ok a => return (a, rest)
        | .error c => throw (.here c rest)
      else .error (unexpected fuel expected (b :: rest))
  value
    | .string t => accept t
    | j => .error (.wrongType (.ofJson j) expected)

/-- A string. -/
def string : Decoder String :=
  textual "a string" .ok

/-- A boolean. -/
def bool : Decoder Bool where
  text fuel _ s :=
    match skipBlanks s with
    | [] => .error (.next .eofValue [])
    | b :: rest =>
      if b = 0x74 then do return (true, ← readWord (ascii "rue") rest)
      else if b = 0x66 then do return (false, ← readWord (ascii "alse") rest)
      else .error (unexpected fuel "a boolean" (b :: rest))
  value
    | .bool b => .ok b
    | j => .error (.wrongType (.ofJson j) "a boolean")

/-- A number as a natural one below `bound`. -/
def boundedNat (bound : Nat) (expected : String) (n : Number) : Except Cause Nat :=
  match n with
  | .integer i =>
    if 0 ≤ i.val ∧ i.val < bound then .ok i.val.toNat
    else .error (.wrongValue (.number n) expected)
  | .double _ => .error (.wrongType (.number n) expected)

/-- A natural number below `bound`, called `expected` in faults. -/
def natBelow (bound : Nat) (expected : String) : Decoder Nat where
  text fuel _ s :=
    match skipBlanks s with
    | [] => .error (.next .eofValue [])
    | b :: rest =>
      if b = 0x2D ∨ isDigit b then do
        let (n, rest) ← if b = 0x2D then readNumber true rest else readNumber false (b :: rest)
        match boundedNat bound expected n with
        | .ok n => return (n, rest)
        | .error c => throw (.here c rest)
      else .error (unexpected fuel expected (b :: rest))
  value
    | .number n => boundedNat bound expected n
    | j => .error (.wrongType (.ofJson j) expected)

/-- `null`, or a value. -/
def option (d : Decoder α) : Decoder (Option α) where
  text fuel depth s :=
    match skipBlanks s with
    | 0x6E :: rest => do return (none, ← readWord (ascii "ull") rest)
    | s => do
      let (a, rest) ← d.text fuel depth s
      return (some a, rest)
  value
    | .null => .ok none
    | j => (d.value j).map some

/-- Reads the items of a list, after its bracket; a fault keeps what was unread. -/
def readList (d : Decoder α) : (fuel depth : Nat) → (acc : List α) → Octets →
    Except Fault (List α × Octets)
  | 0, _, _, s => .error (.here .tooDeep s)
  | fuel + 1, depth, acc, s =>
    match nextItem acc.isEmpty s with
    | .error f => .error f
    | .ok none => .ok (acc.reverse, s)
    | .ok (some s) =>
      match d.text fuel depth s with
      | .error f => .error f
      | .ok (a, rest) => readList d fuel depth (a :: acc) rest

/-- Ends a container: the reader's answer counts first, then whether the container closes; a fault
that is not settled is so where the reader now stands. -/
def close (closing : Octets → Option Fault × Octets) (answer : Except Fault (α × Octets)) :
    Except Fault (α × Octets) :=
  match answer with
  | .ok (a, rest) =>
    match closing rest with
    | (none, rest) => .ok (a, rest)
    | (some f, _) => .error f
  | .error f => .error (f.settle (closing f.rest).2)

/-- A list of items. -/
def list (d : Decoder α) : Decoder (List α) where
  text fuel depth s :=
    match skipBlanks s with
    | [] => .error (.next .eofValue [])
    | b :: rest =>
      if b = 0x5B then
        if depth ≤ 1 then .error (.next .tooDeep (b :: rest))
        else close closeList (readList d fuel (depth - 1) [] rest)
      else .error (unexpected fuel "a sequence" (b :: rest))
  value
    | .array items => items.mapM d.value
    | j => .error (.wrongType (.ofJson j) "a sequence")

/-- A decoder for another type, by a function. -/
def map (f : α → β) (d : Decoder α) : Decoder β where
  text fuel depth s := do
    let (a, rest) ← d.text fuel depth s
    return (f a, rest)
  value j := (d.value j).map f

/-! ### Names -/

/-- The alternative a name stands for. -/
def pick (known : List (String × α)) (name : String) : Except Cause α :=
  match known.find? (·.1 = name) with
  | some (_, a) => .ok a
  | none => .error (.unknownVariant name (known.map (·.1)))

/-- The unit value in the place of an alternative's content: only `null`. -/
def unit : Decoder Unit where
  text fuel _ s :=
    match skipBlanks s with
    | [] => .error (.next .eofValue [])
    | 0x6E :: rest => do return ((), ← readWord (ascii "ull") rest)
    | s => .error (unexpected fuel "unit" s)
  value
    | .null => .ok ()
    | j => .error (.wrongType (.ofJson j) "unit")

/-- One of a set of names: a string, or an object whose one key is the name and whose value is
`null`. -/
def choice (known : List (String × α)) : Decoder α where
  text fuel depth s :=
    let name := textual "variant identifier" (pick known)
    match skipBlanks s with
    | [] => .error (.next .eofValue [])
    | b :: rest =>
      if b = 0x22 then name.text fuel depth (b :: rest)
      else if b = 0x7B then
        if depth ≤ 1 then .error (.next .tooDeep (b :: rest))
        else do
          let (a, s) ← name.text fuel (depth - 1) rest
          let s ← readColon s
          let (_, s) ← unit.text fuel (depth - 1) s
          match skipBlanks s with
          | [] => throw (.here .eofObject [])
          | 0x7D :: rest => return (a, rest)
          | s => throw (.here .expectedValue s)
      else .error (.next .expectedValue (b :: rest))
  value
    | .string s => pick known s
    | .object [(name, j)] => do
      let a ← pick known name
      unit.value j
      return a
    | .object _ => .error (.wrongValue .map "map with a single key")
    | j => .error (.wrongType (.ofJson j) "string or map")

/-! ### Records -/

/-- A field of a record type `α`: its name, whether it must be there, and how it is read into a
record. -/
structure Field (α : Type) where
  name : String
  required : Bool
  text : (fuel depth : Nat) → Octets → Except Fault ((α → α) × Octets)
  value : Json → Except Cause (α → α)

/-- A field read by a decoder and put in place by `set`. -/
def Field.of (name : String) (required : Bool) (d : Decoder β) (set : β → α → α) : Field α where
  name := name
  required := required
  text fuel depth s := do
    let (b, rest) ← d.text fuel depth s
    return (set b, rest)
  value j := (d.value j).map set

/-- A record type: what it is called in faults, the record without fields, and its fields. -/
structure Record (α : Type) where
  name : String
  start : α
  fields : List (Field α)

namespace Record

/-- How many fields the list form has, in words. -/
def listForm (r : Record α) : String :=
  "struct " ++ r.name ++ " with " ++ toString r.fields.length ++
    (if r.fields.length = 1 then " element" else " elements")

/-- The first required field that was not seen. -/
def missing? (r : Record α) (seen : List String) : Option String :=
  (r.fields.find? fun f => f.required && !seen.contains f.name).map (·.name)

/-- Reads the members of an object, after its brace. -/
def readMembers (r : Record α) : (fuel depth : Nat) → (first : Bool) → (seen : List String) → α →
    Octets → Except Fault (α × Octets)
  | 0, _, _, _, _, s => .error (.here .tooDeep s)
  | fuel + 1, depth, first, seen, a, s =>
    match nextKey first s with
    | .error f => .error f
    | .ok none =>
      match r.missing? seen with
      | some name => .error (.unsettled (.missingField name) (skipBlanks s))
      | none => .ok (a, s)
    | .ok (some s) =>
      match readString fuel s with
      | .error f => .error f
      | .ok (key, s) =>
        match r.fields.find? (·.name = key) with
        | some field =>
          if seen.contains key then .error (.unsettled (.duplicateField key) s)
          else
            match readColon s with
            | .error f => .error f
            | .ok s =>
              match field.text fuel depth s with
              | .error f => .error f
              | .ok (set, s) => readMembers r fuel depth false (key :: seen) (set a) s
        | none =>
          match (readColon s).bind (skipValue fuel) with
          | .error f => .error f
          | .ok s => readMembers r fuel depth false seen a s

/-- Reads the fields in their order from a list, after its bracket. -/
def readItems (r : Record α) (fuel depth : Nat) : (done : Nat) → List (Field α) → α →
    Octets → Except Fault (α × Octets)
  | _, [], a, s => .ok (a, s)
  | done, field :: fields, a, s =>
    match nextItem (done = 0) s with
    | .error f => .error f
    | .ok none =>
      if field.required then .error (.unsettled (.wrongLength done r.listForm) (skipBlanks s))
      else readItems r fuel depth (done + 1) fields a s
    | .ok (some s) =>
      match field.text fuel depth s with
      | .error f => .error f
      | .ok (set, s) => readItems r fuel depth (done + 1) fields (set a) s

/-- The record that an object's members give, known ones put in place one after another. -/
def ofMembers (r : Record α) : (seen : List String) → α → Members → Except Cause α
  | seen, a, [] =>
    match r.missing? seen with
    | some name => .error (.missingField name)
    | none => .ok a
  | seen, a, (key, j) :: rest =>
    match r.fields.find? (·.name = key) with
    | some field =>
      if seen.contains key then .error (.duplicateField key)
      else
        match field.value j with
        | .error c => .error c
        | .ok set => ofMembers r (key :: seen) (set a) rest
    | none => ofMembers r seen a rest

/-- The record that a list's items give, and the items that are left. -/
def ofItems (r : Record α) : (done : Nat) → List (Field α) → α → List Json →
    Except Cause (α × List Json)
  | _, [], a, items => .ok (a, items)
  | done, field :: fields, a, [] =>
    if field.required then .error (.wrongLength done r.listForm)
    else ofItems r (done + 1) fields a []
  | done, field :: fields, a, j :: items =>
    match field.value j with
    | .error c => .error c
    | .ok set => ofItems r (done + 1) fields (set a) items

end Record

/-- A record, from an object or from a list of its fields. -/
def record (r : Record α) : Decoder α where
  text fuel depth s :=
    match skipBlanks s with
    | [] => .error (.next .eofValue [])
    | b :: rest =>
      if b = 0x5B then
        if depth ≤ 1 then .error (.next .tooDeep (b :: rest))
        else close closeList (r.readItems fuel (depth - 1) 0 r.fields r.start rest)
      else if b = 0x7B then
        if depth ≤ 1 then .error (.next .tooDeep (b :: rest))
        else close closeObject (r.readMembers fuel (depth - 1) true [] r.start rest)
      else .error (unexpected fuel ("struct " ++ r.name) (b :: rest))
  value
    | .object members => r.ofMembers [] r.start members
    | .array items => do
      let (a, rest) ← r.ofItems 0 r.fields r.start items
      if rest.isEmpty then return a
      else throw (.wrongLength items.length "fewer elements in array")
    | j => .error (.wrongType (.ofJson j) ("struct " ++ r.name))

/-- Reads a whole text. -/
def parse (d : Decoder α) (s : Octets) : Except Fault α := do
  let (a, rest) ← d.text (fuelFor s) maxDepth s
  readEnd rest
  return a

end Decoder
end Switchyard.Json
