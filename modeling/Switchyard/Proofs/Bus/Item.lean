import Switchyard.Proofs.Bus.Field

/-!
# Switchyard.Proofs.Bus.Item

**Every item is one attribute of the body.** `Item.toAttribute` is that attribute, so that a body is
a run of attributes, one for each item and in their order (`body_eq_octetsOf`).

A message and its attributes are told apart so that reading a body is reading a run, and what is
specific to an item is only which attribute it makes. The converse for the items that a message
needs (an attribute of the id that is asked for, read as a text or a table) is in
`Switchyard.Proofs.Bus.Message`.

* `fieldOf_eq_octets`, `Item.octets_eq` — both by cases on what is written; the bodies inside are
  bytes here and are not looked into.
* `Item.body_fields` — an object as a list of fields is written as the table of its members, by
  induction over the members.
-/

namespace Switchyard.Bus

/-- The field of a value as an attribute. It says for every kind of value which type its field has
and what is its payload; that the bytes written are those of this attribute is `fieldOf_eq_octets`.
-/
def valueAttribute (name : String) : Json → Attribute
  | .null => fieldAttribute 0 name []
  | .bool b => fieldAttribute boolType name [if b then 1 else 0]
  | .number n => numberAttribute n
  | .string s => fieldAttribute textType name (endedText s)
  | .array items => fieldAttribute arrayType name (itemsOf items)
  | .object members => fieldAttribute tableType name (fieldsOf members)
where
  /-- The field of a number: the smallest type that holds it exactly. -/
  numberAttribute : Number → Attribute
    | .integer n =>
      if -0x80000000 ≤ n.val ∧ n.val < 0x80000000 then
        fieldAttribute int32Type name (signedBytes 4 n.val)
      else if n.val < 0x8000000000000000 then fieldAttribute int64Type name (signedBytes 8 n.val)
      else doubleAttribute ((Double.ofNat? n.val.toNat).getD .zero)
    | .double d => doubleAttribute d
  /-- The field of a double. -/
  doubleAttribute (d : Double) : Attribute :=
    fieldAttribute doubleType name (Octets.bigEndian 8 d.bits.toNat)

/-- The three types of a number and its double are chosen by the same tests when the number is
written and in `valueAttribute`. -/
theorem numberField_eq_octets (name : String) (n : Number) :
    numberField name n = (valueAttribute.numberAttribute name n).octets := by
  cases n with
  | integer n =>
      simp only [numberField, valueAttribute.numberAttribute, apply_ite Attribute.octets]
      rfl
  | double d => rfl

theorem fieldOf_eq_octets (name : String) (j : Json) :
    fieldOf name j = (valueAttribute name j).octets := by
  cases j with
  | number n => exact numberField_eq_octets name n
  | _ => rfl

namespace Item

/-- The attribute that an item adds to a body. -/
def toAttribute : Item → Attribute
  | raw id payload => ⟨id, false, payload⟩
  | nested id items => ⟨id, false, body items⟩
  | field name value => valueAttribute name value
  | typeField name type => fieldAttribute int32Type name (Octets.bigEndian 4 type.toNat)
  | table name items => fieldAttribute tableType name (body items)

theorem octets_eq (item : Item) : item.octets = item.toAttribute.octets := by
  cases item with
  | field name value => rw [octets, fieldOf_eq_octets, toAttribute]
  | _ => rfl

/-- A body is a run of attributes, one for each item. -/
theorem body_eq_octetsOf (items : List Item) :
    body items = Attribute.octetsOf (items.map toAttribute) := by
  induction items with
  | nil => rfl
  | cons item rest ih =>
      rw [body, ih, octets_eq, List.map_cons, Attribute.octetsOf_cons]

/-- A body is read back as the attributes of its items, as many as there are items and in their
order, if each of them fits its word. -/
theorem parseAll_body {items : List Item} (h : ∀ item ∈ items, item.toAttribute.Fits) :
    Attribute.parseAll (body items) = .ok (items.map toAttribute) := by
  rw [body_eq_octetsOf, Attribute.parseAll_octetsOf (List.forall_mem_map.mpr h)]

/-- The members of an object as items make the same fields. -/
theorem body_fields (members : Json.Members) : body (fields members) = fieldsOf members := by
  induction members with
  | nil => rfl
  | cons m members ih =>
      obtain ⟨name, j⟩ := m
      show fieldOf name j ++ body (fields members) = _
      rw [ih, fieldsOf]

end Item
end Switchyard.Bus
