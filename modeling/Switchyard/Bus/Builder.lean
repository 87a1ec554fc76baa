import Switchyard.Bus.Item

/-!
# Building in place

A body grows in one buffer, and an attribute is written into it in three steps, since its length is
known last:

* `Head.start` puts a word that tells no length at the end of the buffer, and behind it the name of
  a field;
* bytes, or further attributes, fill the attribute;
* `finish` goes back to the word to put the length in, and adds zeros up to the next multiple of
  four bytes.

`Step` is one attribute and what fills it, `Step.run` what becomes of the buffer. `Item.step` tells
the step of an item, and `build` builds a body of items.
-/

namespace Switchyard.Bus

/-! ### The buffer -/

namespace Buffer

/-- The buffer cut, or filled up with zeros, to a length. -/
def resize (length : Nat) (buffer : Octets) : Octets :=
  buffer.take length ++ List.replicate (length - buffer.length) 0

/-- What a word tells of a length: its low 24 bits, and as much as it can of a length that four
bytes cannot hold. -/
def told (length : Nat) : Nat :=
  if length < 0x100000000 then length % 0x1000000 else 0xffffff

/-- A word with another length in its low 24 bits. -/
def withLength (length : Nat) (word : Octets) : Octets :=
  let n := Octets.ofBigEndian word
  Octets.bigEndian wordSize (n - n % 0x1000000 + told length)

/-- Puts a length in the word that begins at `offset`. -/
def setLength (offset length : Nat) (buffer : Octets) : Octets :=
  match Octets.splitExact? wordSize (buffer.drop offset) with
  | some (word, rest) => buffer.take offset ++ (withLength length word ++ rest)
  | none => buffer

/-- Finishes the attribute that begins at `offset`: it reaches to the end of the buffer. -/
def finish (offset : Nat) (buffer : Octets) : Octets :=
  let length := buffer.length - offset
  resize (offset + padded length) (setLength offset length buffer)

end Buffer

/-! ### Steps -/

/-- What an attribute begins with. -/
inductive Head where
  /-- A word with this id. -/
  | plain (id : UInt8)
  /-- A word with the flag and a type for an id, and a name. -/
  | named (type : UInt8) (name : String)

namespace Head

/-- A buffer with a word behind it that tells no length. -/
def startWord (id : UInt8) (flag : Bool) (buffer : Octets) : Octets :=
  buffer ++ attributeWord id flag 0

/-- Begins an attribute at the end of the buffer. -/
def start : Head → Octets → Octets
  | plain id, buffer => startWord id false buffer
  | named type name, buffer =>
    let bytes := (Utf8.encode name).take maxName
    Buffer.resize (buffer.length + wordSize + padded (2 + bytes.length + 1))
      (startWord type true buffer ++ (Octets.bigEndian 2 bytes.length ++ (bytes ++ [0])))

end Head

/-- An attribute that is added to the buffer. -/
inductive Step where
  /-- It is filled with bytes. -/
  | bytes (head : Head) (value : Octets)
  /-- It is filled with the attributes that further steps add. -/
  | group (head : Head) (steps : List Step)

namespace Step

mutual

/-- The buffer after a step. -/
def run : Step → Octets → Octets
  | bytes head value, buffer => Buffer.finish buffer.length (head.start buffer ++ value)
  | group head steps, buffer => Buffer.finish buffer.length (runAll steps (head.start buffer))

/-- The buffer after steps one after another. -/
def runAll : List Step → Octets → Octets
  | [], buffer => buffer
  | step :: rest, buffer => runAll rest (step.run buffer)

end

/-- The type of a number's field and its bytes: the smallest type that holds it exactly; integers
beyond 64 signed bits are rounded to doubles. -/
def ofNumber (name : String) : Number → Step
  | .integer n =>
    if -0x80000000 ≤ n.val ∧ n.val < 0x80000000 then
      bytes (.named int32Type name) (signedBytes 4 n.val)
    else if n.val < 0x8000000000000000 then bytes (.named int64Type name) (signedBytes 8 n.val)
    else ofDouble ((Double.ofNat? n.val.toNat).getD .zero)
  | .double d => ofDouble d
where
  /-- A double as a field. -/
  ofDouble (d : Double) : Step :=
    bytes (.named doubleType name) (Octets.bigEndian 8 d.bits.toNat)

mutual

/-- The step that adds the field of a value. -/
def ofValue (name : String) : Json → Step
  | .null => bytes (.named 0 name) []
  | .bool b => bytes (.named boolType name) [if b then 1 else 0]
  | .number n => ofNumber name n
  | .string s => bytes (.named textType name) (endedText s)
  | .array items => group (.named arrayType name) (ofItems items)
  | .object members => group (.named tableType name) (ofMembers members)

/-- The steps that add the items of a list, as fields without names. -/
def ofItems : List Json → List Step
  | [] => []
  | j :: rest => ofValue "" j :: ofItems rest

/-- The steps that add the members of an object. -/
def ofMembers : Json.Members → List Step
  | [] => []
  | (name, j) :: rest => ofValue name j :: ofMembers rest

end

end Step

namespace Item

mutual

/-- The step that adds an item. -/
def step : Item → Step
  | raw id payload => .bytes (.plain id) payload
  | nested id items => .group (.plain id) (steps items)
  | field name value => .ofValue name value
  | typeField name type => .bytes (.named int32Type name) (Octets.bigEndian 4 type.toNat)
  | table name items => .group (.named tableType name) (steps items)

/-- The steps that add items. -/
def steps : List Item → List Step
  | [] => []
  | item :: rest => item.step :: steps rest

end

/-- The buffer that items build. -/
def build (items : List Item) : Octets :=
  Step.runAll (steps items) []

end Item
end Switchyard.Bus
