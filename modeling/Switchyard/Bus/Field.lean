import Switchyard.Bus.Attribute
import Switchyard.Json.Basic
import Switchyard.Text.Utf8

/-!
# Fields

A field is an attribute with a name in front of its value: the length of the name in two bytes, the
name, a zero, and zeros up to the next multiple of four. The id tells the type of the value.

* `fieldOf` writes a JSON value as a field, `fieldsOf` the members of an object one after another.
* `readTable` reads a run of fields as the members of an object. A field of an unknown type is
  `null`, and of fields with one name the last one counts.

Texts end at their first zero byte, so a text that holds one does not come back whole.
-/

namespace Switchyard.Bus

/-! ### Types of values -/

/-- A list of fields without names. -/
def arrayType : UInt8 := 1
/-- A run of fields. -/
def tableType : UInt8 := 2
/-- A text, ended by a zero byte. -/
def textType : UInt8 := 3
/-- A signed number of eight bytes. -/
def int64Type : UInt8 := 4
/-- A signed number of four bytes. -/
def int32Type : UInt8 := 5
/-- A signed number of two bytes. -/
def int16Type : UInt8 := 6
/-- A truth value of one byte. -/
def boolType : UInt8 := 7
/-- A binary floating-point number of eight bytes. -/
def doubleType : UInt8 := 8

/-! ### Writing -/

/-- The largest length of a name. -/
def maxName : Nat := 0xffff

/-- A name as it stands in front of a value; a longer one is cut to the largest length. -/
def nameHeader (name : String) : Octets :=
  let bytes := (Utf8.encode name).take maxName
  let header := Octets.bigEndian 2 bytes.length ++ (bytes ++ [0])
  header ++ padding header.length

/-- A field. -/
def field (type : UInt8) (name : String) (value : Octets) : Octets :=
  Attribute.write type true (nameHeader name ++ value)

/-- The `width` bytes of a number in two's complement. -/
def signedBytes (width : Nat) (n : Int) : Octets :=
  Octets.bigEndian width (n % Nat.pow 2 (8 * width)).toNat

/-- A text with the zero that ends it. -/
def endedText (s : String) : Octets :=
  Utf8.encode s ++ [0]

/-- A number as a field of the smallest type that holds it exactly; integers beyond 64 signed bits
are rounded to doubles. -/
def numberField (name : String) : Number → Octets
  | .integer n =>
    if -0x80000000 ≤ n.val ∧ n.val < 0x80000000 then field int32Type name (signedBytes 4 n.val)
    else if n.val < 0x8000000000000000 then field int64Type name (signedBytes 8 n.val)
    else doubleField ((Double.ofNat? n.val.toNat).getD .zero)
  | .double d => doubleField d
where
  /-- A double as a field. -/
  doubleField (d : Double) : Octets :=
    field doubleType name (Octets.bigEndian 8 d.bits.toNat)

mutual

/-- A value as a field. -/
def fieldOf (name : String) : Json → Octets
  | .null => field 0 name []
  | .bool b => field boolType name [if b then 1 else 0]
  | .number n => numberField name n
  | .string s => field textType name (endedText s)
  | .array items => field arrayType name (itemsOf items)
  | .object members => field tableType name (fieldsOf members)

/-- The items of a list as fields without names. -/
def itemsOf : List Json → Octets
  | [] => []
  | j :: rest => fieldOf "" j ++ itemsOf rest

/-- The members of an object as fields. -/
def fieldsOf : Json.Members → Octets
  | [] => []
  | (name, j) :: rest => fieldOf name j ++ fieldsOf rest

end

/-! ### Reading -/

/-- The bytes before the first zero, or all if there is none. -/
def untilZero (s : Octets) : Octets :=
  s.takeWhile (· ≠ 0)

/-- The text that bytes hold up to their first zero. -/
def readText (s : Octets) : Except Error String :=
  match Utf8.decode? (untilZero s) with
  | some text => .ok text
  | none => .error (.malformed .text)

/-- The number that the first `width` bytes hold in two's complement. -/
def readSigned (width : Nat) (s : Octets) : Except Error Json :=
  match leadingNumber width s with
  | .error e => .error e
  | .ok n => .ok (.int (Int.bmod n (Nat.pow 2 (8 * width))))

/-- The double that the first eight bytes hold; `null` for one that is not finite. -/
def readDouble (s : Octets) : Except Error Json :=
  match leadingNumber 8 s with
  | .error e => .error e
  | .ok n =>
    match Double.ofBits? (UInt64.ofNat n) with
    | some d => .ok (.number (.double d))
    | none => .ok .null

/-- Splits a field into its name and the bytes of its value. -/
def Attribute.splitName (a : Attribute) : Except Error (String × Octets) :=
  if !a.named then .error (.malformed .field)
  else
    match leadingNumber 2 a.payload with
    | .error e => .error e
    | .ok length =>
      let name := Octets.splitExact? length (a.payload.drop 2)
      match name.bind fun (name, _) => Utf8.decode? name with
      | none => .error (.malformed .fieldName)
      | some name =>
        match Octets.splitExact? (padded (2 + length + 1)) a.payload with
        | none => .error (.malformed .fieldHeader)
        | some (_, value) => .ok (name, value)

/-- Reads fields as members with a reader for their values, onto the reversed list of those
before. -/
def readFields (readValue : UInt8 → Octets → Except Error Json) :
    (acc : Json.Members) → List Attribute → Except Error Json.Members
  | acc, [] => .ok acc.reverse
  | acc, a :: rest =>
    match a.splitName with
    | .error e => .error e
    | .ok (name, value) =>
      match readValue a.id value with
      | .error e => .error e
      | .ok j => readFields readValue ((name, j) :: acc) rest

/-- Reads a run of fields as members. -/
def readMembers (readValue : UInt8 → Octets → Except Error Json) (s : Octets) :
    Except Error Json.Members :=
  match Attribute.parseAll s with
  | .error e => .error e
  | .ok fields => readFields readValue [] fields

/-- Reads a value of a type with at most `depth` levels of tables and lists. -/
def readValue : (depth : Nat) → (type : UInt8) → Octets → Except Error Json
  | 0, _, _ => .error (.malformed .attributeLength)
  | depth + 1, type, s =>
    if type = tableType then (readMembers (readValue depth) s).map .ofMembers
    else if type = arrayType then
      (readMembers (readValue depth) s).map fun members => .array (members.map (·.2))
    else if type = textType then (readText s).map .string
    else if type = int64Type then readSigned 8 s
    else if type = int32Type then readSigned 4 s
    else if type = int16Type then readSigned 2 s
    else if type = boolType then .ok (.bool ((s.head?.getD 0) ≠ 0))
    else if type = doubleType then readDouble s
    else .ok .null

/-- Reads a run of fields as an object. A level of nesting takes more than one byte, so there are
fewer of them than bytes. -/
def readTable (s : Octets) : Except Error Json.Members :=
  (readMembers (readValue s.length) s).map Json.sortMembers

end Switchyard.Bus
