import Switchyard.Bus.Item
import Switchyard.Proofs.Bus.Attribute
import Switchyard.Proofs.Text.Utf8

/-!
# Switchyard.Proofs.Bus.Field

**A field is read back as its name and its value.** The name comes back from the front of the
payload if its length fits two bytes (`splitName_fieldAttribute`), a text comes back up to its first
zero, so all of it if it has none (`readText_endedText`). For a table of one text both together are
`readTable_text`.

A name stands in front of the value in the payload of a named attribute: two bytes for its length,
its bytes, a zero, and padding up to a whole word. So the value begins at a place that can be told
from the length alone, and no zero inside of the name is mistaken for its end. A text has no length
of its own, and there a zero ends it.

* `ShortName` — the length fits its two bytes. A longer name is cut when it is written and comes
  back as another one.
* `Utf8.ZeroFree` — what the texts must fulfil, as a property of the text and not of its bytes.
-/

namespace Switchyard.Bus

/-- A field as an attribute: its type is the id, its flag says that a name comes first. -/
def fieldAttribute (type : UInt8) (name : String) (value : Octets) : Attribute :=
  ⟨type, true, nameHeader name ++ value⟩

theorem field_eq_octets (type : UInt8) (name : String) (value : Octets) :
    field type name value = (fieldAttribute type name value).octets := rfl

/-! ### Names -/

/-- Two bytes can tell how long the name is. What is counted are the bytes of the name and not its
characters. -/
def ShortName (name : String) : Prop :=
  (Utf8.encode name).length ≤ maxName

theorem shortName_iff (name : String) : ShortName name ↔ name.utf8ByteSize ≤ maxName := by
  unfold ShortName
  rw [Utf8.length_encode]

/-- The name as it stands in front of a value, with its length and without padding. -/
def nameOctets (name : String) : Octets :=
  Octets.bigEndian 2 (Utf8.encode name).length ++ (Utf8.encode name ++ [0])

theorem length_nameOctets (name : String) :
    (nameOctets name).length = 2 + (Utf8.encode name).length + 1 := by
  unfold nameOctets
  rw [List.length_append, List.length_append, Octets.length_bigEndian, List.length_singleton]
  omega

/-- Nothing is cut from a short name, so that the header holds all of it and its padding. -/
theorem nameHeader_of_short {name : String} (h : ShortName name) :
    nameHeader name = nameOctets name ++ padding (nameOctets name).length := by
  unfold nameHeader nameOctets
  rw [List.take_of_length_le h]

/-- The header of a short name takes whole words. The reader computes the same number from the two
bytes that it has read, and skips as much. -/
theorem length_nameHeader {name : String} (h : ShortName name) :
    (nameHeader name).length = padded (2 + (Utf8.encode name).length + 1) := by
  have hle := le_padded (2 + (Utf8.encode name).length + 1)
  rw [nameHeader_of_short h, List.length_append, length_padding, length_nameOctets]
  omega

/-- The name and the value are found again in a field. The value may be anything, also something
that looks like a name or like padding. -/
theorem splitName_fieldAttribute (type : UInt8) {name : String} (value : Octets)
    (h : ShortName name) :
    (fieldAttribute type name value).splitName = .ok (name, value) := by
  -- What stands behind the bytes of the name: its zero, the padding, and the value.
  let behind := [0] ++ padding (nameOctets name).length ++ value
  have hpayload : nameHeader name ++ value =
      Octets.bigEndian 2 (Utf8.encode name).length ++ (Utf8.encode name ++ behind) := by
    rw [nameHeader_of_short h]
    simp only [nameOctets, List.append_assoc, behind]
  have hsize : (Utf8.encode name).length % 256 ^ 2 = (Utf8.encode name).length :=
    Nat.mod_eq_of_lt (Nat.lt_of_le_of_lt h (by decide))
  -- The length comes first and is not cut, the bytes of the name are behind it, and the value
  -- begins where the padded header ends.
  have hnumber : leadingNumber 2 (nameHeader name ++ value) = .ok (Utf8.encode name).length := by
    rw [hpayload, leadingNumber_append, hsize]
  have hname : Octets.splitExact? (Utf8.encode name).length ((nameHeader name ++ value).drop 2) =
      some (Utf8.encode name, behind) := by
    rw [hpayload, List.drop_left' (Octets.length_bigEndian _ _), Octets.splitExact?_append]
  have hvalue : Octets.splitExact? (padded (2 + (Utf8.encode name).length + 1))
      (nameHeader name ++ value) = some (nameHeader name, value) :=
    Octets.splitExact?_eq_some_iff.mpr ⟨rfl, length_nameHeader h⟩
  unfold Attribute.splitName fieldAttribute
  simp only [hnumber, hname, hvalue, Option.bind_some, Utf8.decode?_encode]
  rfl

/-! ### Texts -/

/-- What stands before the first zero is all of the text if there is no zero in it. Behind that zero
there may be any bytes. -/
theorem untilZero_append_zero {s : Octets} (h : 0 ∉ s) (rest : Octets) :
    untilZero (s ++ 0 :: rest) = s := by
  unfold untilZero
  rw [List.takeWhile_append_of_pos]
  · simp
  · intro b hb
    simpa using ne_of_mem_of_not_mem hb h

/-- A text without zeros is read back from the bytes that it ends with a zero. -/
theorem readText_endedText {s : String} (h : Utf8.ZeroFree s) : readText (endedText s) = .ok s := by
  unfold readText endedText
  rw [untilZero_append_zero (Utf8.zero_notMem_encode h), Utf8.decode?_encode]

/-! ### Tables -/

/-- To read the members of a table is to read the run of its attributes and then each of them as a
field. -/
theorem readMembers_octetsOf {readValue : UInt8 → Octets → Except Error Json}
    {as : List Attribute} (h : ∀ a ∈ as, a.Fits) :
    readMembers readValue (Attribute.octetsOf as) = readFields readValue [] as := by
  unfold readMembers
  rw [Attribute.parseAll_octetsOf h]

/-- A text is no container, so that one level of depth is enough for it. -/
theorem readValue_text (depth : Nat) {s : String} (h : Utf8.ZeroFree s) :
    readValue (depth + 1) textType (endedText s) = .ok (.string s) := by
  rw [readValue, if_neg (by decide), if_neg (by decide), if_pos rfl, readText_endedText h]
  rfl

/-- A table of one text is read back, if there is room for it and no zero in the text. It is the
smallest table that holds something, and the only one that the error messages of a worker need. -/
theorem readTable_text {name s : String} (hname : ShortName name) (hs : Utf8.ZeroFree s)
    (hfits : (fieldAttribute textType name (endedText s)).Fits) :
    readTable (fieldOf name (.string s)) = .ok [(name, .string s)] := by
  have hoctets : fieldOf name (.string s) =
      Attribute.octetsOf [fieldAttribute textType name (endedText s)] := by
    rw [fieldOf, field_eq_octets, Attribute.octetsOf_cons, Attribute.octetsOf_nil, List.append_nil]
  -- The depth that the reader is given is the number of bytes, of which there is at least one.
  obtain ⟨depth, hdepth⟩ : ∃ n, (fieldOf name (.string s)).length = n + 1 := by
    apply Nat.exists_eq_add_one.mpr
    rw [fieldOf, field_eq_octets]
    exact List.length_pos_iff.mpr (Attribute.octets_ne_nil _)
  have hfields : readFields (readValue (depth + 1)) []
      [fieldAttribute textType name (endedText s)] = .ok [(name, .string s)] := by
    rw [readFields, splitName_fieldAttribute textType _ hname]
    simp only [fieldAttribute, readValue_text depth hs, readFields, List.reverse_singleton]
  unfold readTable
  rw [hdepth, hoctets, readMembers_octetsOf (by simpa using hfits), hfields]
  rfl

end Switchyard.Bus
