import Switchyard.Bus.Field

/-!
# Building bodies

A message body is built from items: plain attributes, groups of items under one attribute, and
fields. `Item.octets` is what an item adds to the body. Every item begins and ends on a multiple of
four bytes and leaves what is in front of it alone.
-/

namespace Switchyard.Bus

/-- One step in building a body. -/
inductive Item where
  /-- An attribute with these bytes. -/
  | raw (id : UInt8) (payload : Octets)
  /-- An attribute that holds items. -/
  | nested (id : UInt8) (items : List Item)
  /-- A field. -/
  | field (name : String) (value : Json)
  /-- A field that holds a type, as in the signature of a method. -/
  | typeField (name : String) (type : UInt8)
  /-- A table whose fields are items. -/
  | table (name : String) (items : List Item)

namespace Item

/-- An attribute with a number of four bytes. -/
def word (id : UInt8) (n : UInt32) : Item :=
  raw id (Octets.bigEndian 4 n.toNat)

/-- An attribute with a text. -/
def text (id : UInt8) (s : String) : Item :=
  raw id (endedText s)

/-- The members of an object as fields. -/
def fields (members : Json.Members) : List Item :=
  members.map fun (name, value) => field name value

mutual

/-- The bytes of an item. -/
def octets : Item → Octets
  | raw id payload => Attribute.write id false payload
  | nested id items => Attribute.write id false (body items)
  | field name value => fieldOf name value
  | typeField name type => Bus.field int32Type name (Octets.bigEndian 4 type.toNat)
  | table name items => Bus.field tableType name (body items)

/-- The bytes of items one after another. -/
def body : List Item → Octets
  | [] => []
  | item :: rest => octets item ++ body rest

end

end Item
end Switchyard.Bus
