import Switchyard.Bus.Failure
import Switchyard.Octets

/-!
# Attributes

The body of a bus message is a run of attributes. Each begins with a word of four bytes: a flag
(bit 31), an id (seven bits) and the length of the attribute with this word (24 bits). Zeros follow
up to the next multiple of four bytes.

* `Attribute.write` writes one attribute.
* `Attribute.parseAll` takes a run apart. It accepts padding of any value, and the end of the run
  in place of the last padding.
-/

namespace Switchyard.Bus

/-- The bytes of the word in front of an attribute, and of the alignment. -/
def wordSize : Nat := 4

/-- The least multiple of four that is not below `n`. -/
def padded (n : Nat) : Nat :=
  (n + 3) / 4 * 4

/-- Zeros up to the next multiple of four bytes after a run of `n`. -/
def padding (n : Nat) : Octets :=
  List.replicate (padded n - n) 0

/-- The word in front of an attribute: the high bit of the id is the flag, and the length keeps its
low 24 bits. -/
def attributeWord (id : UInt8) (flag : Bool) (length : Nat) : Octets :=
  Octets.bigEndian wordSize
    ((if flag ∨ 128 ≤ id.toNat then 0x80000000 else 0) + id.toNat % 128 * 0x1000000 +
      length % 0x1000000)

/-- An attribute as it is read. -/
structure Attribute where
  id : UInt8
  /-- Whether the payload begins with a name. -/
  named : Bool
  payload : Octets
  deriving DecidableEq

/-- The number that the first `width` bytes spell, most significant first. -/
def leadingNumber (width : Nat) (s : Octets) : Except Error Nat :=
  match Octets.splitExact? width s with
  | some (head, _) => .ok (Octets.ofBigEndian head)
  | none => .error (.malformed .number)

namespace Attribute

/-- An attribute with its padding. -/
def write (id : UInt8) (flag : Bool) (payload : Octets) : Octets :=
  let length := wordSize + payload.length
  attributeWord id flag length ++ (payload ++ padding length)

/-- Takes the first attribute, with its padding, from a run that is not empty. -/
def parse (s : Octets) : Except Error (Attribute × Octets) :=
  match leadingNumber wordSize s with
  | .error e => .error e
  | .ok word =>
    let length := word % 0x1000000
    if length < wordSize then .error (.malformed .attributeLength)
    else
      match Octets.splitExact? (length - wordSize) (s.drop wordSize) with
      | none => .error (.malformed .attributeLength)
      | some (payload, rest) =>
        .ok (⟨UInt8.ofNat (word / 0x1000000 % 128), 0x80000000 ≤ word, payload⟩,
          rest.drop (padded length - length))

/-- Takes at most `fuel` attributes from a run, onto the reversed list of those before. -/
def parseOnto : (fuel : Nat) → (acc : List Attribute) → Octets → Except Error (List Attribute)
  | _, acc, [] => .ok acc.reverse
  | 0, _, _ => .error (.malformed .attributeLength)
  | fuel + 1, acc, s =>
    match parse s with
    | .error e => .error e
    | .ok (a, rest) => parseOnto fuel (a :: acc) rest

/-- All attributes of a run. Each takes at least one byte, which the fuel counts. -/
def parseAll (s : Octets) : Except Error (List Attribute) :=
  parseOnto s.length [] s

/-- The attribute of an id that comes first. -/
def find? (id : UInt8) (attributes : List Attribute) : Option Attribute :=
  attributes.find? (·.id = id)

end Attribute
end Switchyard.Bus
