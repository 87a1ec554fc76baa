import Switchyard.Json.Decoder

/-!
# Reading one of several record types

A tagged value is an object one of whose members, the tag, names a record type; the other members
are the fields of that type. In the list form the tag comes first and the fields follow.

The type is known only when the tag has been read, so all other members are read as free values
first, and a fault of the record itself has no place of its own.
-/

namespace Switchyard.Json.Decoder

variable {α : Type}

/-- The record that free members or items give. -/
def Record.ofContent (r : Record α) : Json → Except Cause α
  | .object members => r.ofMembers [] r.start members
  | .array items =>
    match r.ofItems 0 r.fields r.start items with
    | .error c => .error c
    | .ok (a, []) => .ok a
    | .ok (_, _ :: _) =>
      let n := r.fields.length
      .error (.wrongLength items.length
        (toString n ++ (if n = 1 then " element" else " elements") ++ " in sequence"))
  | j => .error (.wrongType (.ofJson j) ("struct " ++ r.name))

/-- The name that the tag spells. -/
def variantName (variants : List (String × Record α)) : Decoder (Record α) :=
  textual "variant identifier" (pick variants)

/-- Reads the members of a tagged object, after its brace. -/
def readTaggedMembers (tag : String) (variants : List (String × Record α)) :
    (fuel depth : Nat) → (first : Bool) → Option (Record α) → (acc : Members) → Octets →
      Except Fault ((Record α × Json) × Octets)
  | 0, _, _, _, _, s => .error (.here .tooDeep s)
  | fuel + 1, depth, first, found, acc, s =>
    match nextKey first s with
    | .error f => .error f
    | .ok none =>
      match found with
      | some r => .ok ((r, .object acc.reverse), s)
      | none => .error (.unsettled (.missingField tag) (skipBlanks s))
    | .ok (some s) =>
      match readString fuel s with
      | .error f => .error f
      | .ok (key, s) =>
        if key = tag then
          if found.isSome then .error (.unsettled (.duplicateField tag) s)
          else
            match (readColon s).bind ((variantName variants).text fuel depth) with
            | .error f => .error f
            | .ok (r, s) => readTaggedMembers tag variants fuel depth false (some r) acc s
        else
          match (readColon s).bind (readValue fuel depth) with
          | .error f => .error f
          | .ok (j, s) => readTaggedMembers tag variants fuel depth false found ((key, j) :: acc) s

/-- Reads the items of a tagged list, after its bracket. -/
def readTaggedItems (tag : String) (variants : List (String × Record α)) (fuel depth : Nat)
    (s : Octets) : Except Fault ((Record α × Json) × Octets) :=
  match nextItem true s with
  | .error f => .error f
  | .ok none => .error (.unsettled (.missingField tag) (skipBlanks s))
  | .ok (some s) =>
    match (variantName variants).text fuel depth s with
    | .error f => .error f
    | .ok (r, s) =>
      match readList any fuel depth [.null] s with
      | .error f => .error f
      | .ok (items, s) => .ok ((r, .array (items.drop 1)), s)

/-- Makes the record of content that was read. -/
def finishTagged (answer : Except Fault ((Record α × Json) × Octets)) :
    Except Fault (α × Octets) :=
  match answer with
  | .error f => .error f
  | .ok ((r, content), s) =>
    match r.ofContent content with
    | .ok a => .ok (a, s)
    | .error c => .error (.unsettled c s)

/-- A value of one of several record types, called `name` in faults. -/
def tagged (tag name : String) (variants : List (String × Record α)) : Decoder α where
  text fuel depth s :=
    match skipBlanks s with
    | [] => .error (.next .eofValue [])
    | b :: rest =>
      if b = 0x5B then
        if depth ≤ 1 then .error (.next .tooDeep (b :: rest))
        else
          finishTagged (close closeList (readTaggedItems tag variants fuel (depth - 1) rest))
      else if b = 0x7B then
        if depth ≤ 1 then .error (.next .tooDeep (b :: rest))
        else
          finishTagged
            (close closeObject (readTaggedMembers tag variants fuel (depth - 1) true none [] rest))
      else .error (unexpected fuel ("internally tagged enum " ++ name) (b :: rest))
  value
    | .object members =>
      match lookup? tag members with
      | none => .error (.missingField tag)
      | some j =>
        match (variantName variants).value j with
        | .error c => .error c
        | .ok r => r.ofContent (.object (members.filter (·.1 ≠ tag)))
    | .array [] => .error (.missingField tag)
    | .array (j :: items) =>
      match (variantName variants).value j with
      | .error c => .error c
      | .ok r => r.ofContent (.array items)
    | j => .error (.wrongType (.ofJson j) ("internally tagged enum " ++ name))

end Switchyard.Json.Decoder
