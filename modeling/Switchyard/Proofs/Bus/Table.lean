import Mathlib.Data.Int.Basic
import Switchyard.Proofs.Bus.Item
import Switchyard.Proofs.Json.Ordered

/-!
# Switchyard.Proofs.Bus.Table

**A table is read back as the object it was written for** (`tables_read_back`), whatever it nests.
What a field cannot bring across is left out by `Json.Portable`: a text with a zero, a name whose
length two bytes cannot tell, an integer above 64 signed bits.

* `readSigned_signedBytes`, `readDouble_bits` — numbers come back from their bytes.
* `ReadsBack` — the field of one value gives its name and the value again. The reader counts levels
  of nesting; more levels than the value has bytes are always enough, since the bytes of a nested
  value are part of those around it.
* `readMembers_fieldsOf` — fields in a row are read back when each of them is. A list is read as a
  table whose names are empty (`itemsOf_eq_fieldsOf`).
* `readsBack_of_portable` — from there by induction on the value.

The order of the members matters in one place only: the reader sorts what it has read, and an object
whose keys are sorted already is left as it is. The bound on the length is that of the outermost
fields. What is inside of a field takes fewer bytes than the field (`length_value_le`), so the bound
comes down the tree by itself, and the same inequality is what bounds the levels of nesting.
-/

namespace Switchyard

namespace Json

mutual

/-- Every text in the value is free of zeros, every key fits its length, and every integer has 64
signed bits. Each of these is needed: a text ends at its first zero, a longer key is cut, and a
larger integer is written as a double. -/
def Portable : Json → Prop
  | .number (.integer n) => n.val < 0x8000000000000000
  | .string s => Utf8.ZeroFree s
  | .array items => PortableItems items
  | .object members => PortableMembers members
  | _ => True

/-- Every value of a list is portable. -/
def PortableItems : List Json → Prop
  | [] => True
  | j :: rest => Portable j ∧ PortableItems rest

/-- Every key of a list of members fits its length, and every value is portable. -/
def PortableMembers : Members → Prop
  | [] => True
  | (key, j) :: rest => Bus.ShortName key ∧ Portable j ∧ PortableMembers rest

end

end Json

namespace Bus

/-! ### Numbers -/

theorem leadingNumber_bigEndian {width n : Nat} (h : n < 256 ^ width) :
    leadingNumber width (Octets.bigEndian width n) = .ok n := by
  have happend := leadingNumber_append width n []
  rwa [List.append_nil, Nat.mod_eq_of_lt h] at happend

/-- A number in range of two's complement is read back from its bytes. It is stated once for any
width, with half of the range as the bound on both sides. -/
theorem readSigned_signedBytes {width half : Nat} (hhalf : Nat.pow 2 (8 * width) = half * 2)
    {n : Int} (hlower : -half ≤ n) (hupper : n < half) :
    readSigned width (signedBytes width n) = .ok (.int n) := by
  -- Two's complement keeps a number modulo the range, and the reader takes the representative
  -- nearest to zero.
  have hbmod : Int.bmod n (Nat.pow 2 (8 * width)) = n := by
    rw [hhalf]
    exact Int.bmod_eq_of_le_mul_two (by omega) (by omega)
  have hpos : (0 : Int) < Nat.pow 2 (8 * width) := by
    exact_mod_cast Nat.two_pow_pos (8 * width)
  have hnonneg : 0 ≤ n % (Nat.pow 2 (8 * width) : Int) := Int.emod_nonneg n hpos.ne'
  have hlt : (n % (Nat.pow 2 (8 * width) : Int)).toNat < 256 ^ width := by
    have hwidth : 256 ^ width = Nat.pow 2 (8 * width) := (Nat.pow_mul 2 8 width).symm
    rw [hwidth, Int.toNat_lt hnonneg]
    exact Int.emod_lt_of_pos n hpos
  unfold readSigned signedBytes
  rw [leadingNumber_bigEndian hlt]
  dsimp only
  rw [Int.toNat_of_nonneg hnonneg, Int.emod_bmod, hbmod]

theorem int_val (n : Integer) : Json.int n.val = .number (.integer n) := by
  unfold Json.int Integer.ofInt?
  rw [dif_pos ⟨n.lower, n.upper⟩]

/-- A double is read back bit for bit, so that also a negative zero stays what it is. -/
theorem readDouble_bits (d : Double) :
    readDouble (Octets.bigEndian 8 d.bits.toNat) = .ok (.number (.double d)) := by
  have hbits : Double.ofBits? d.bits = some d := by
    unfold Double.ofBits?
    rw [dif_pos d.finite]
  unfold readDouble
  rw [leadingNumber_bigEndian d.bits.toNat_lt]
  dsimp only
  rw [UInt64.ofNat_toNat, hbits]

/-! ### One field -/

/-- The field of a value is an attribute that fits, and it gives the name and the value again to
every reader that allows for more levels of nesting than the value has bytes. The levels are what
the recursion over the value goes through, so that one reader can be used for all fields of a table.
-/
structure ReadsBack (name : String) (j : Json) : Prop where
  fits : (valueAttribute name j).Fits
  reads : ∃ value, (valueAttribute name j).splitName = .ok (name, value) ∧
    value.length < (fieldOf name j).length ∧
    ∀ depth, value.length < depth → readValue depth (valueAttribute name j).id value = .ok j

variable {name : String} {j : Json}

/-- The bytes of a value are part of those of its field, together with the word in front. -/
theorem length_value_le (type : UInt8) (name : String) (value : Octets) :
    wordSize + value.length ≤ (field type name value).length := by
  have hle := le_padded (wordSize + (nameHeader name ++ value).length)
  unfold field
  rw [Attribute.length_write]
  rw [List.length_append] at hle ⊢
  omega

/-- A field is read back when its value is. Name, bounds and id are the same for values of every
type, and only `hread` is left to say what the type is. -/
theorem readsBack_of_field (type : UInt8) (value : Octets)
    (hfield : valueAttribute name j = fieldAttribute type name value) (htype : type.toNat < 128)
    (hname : ShortName name) (hsize : (fieldOf name j).length < 0x1000000)
    (hread : ∀ depth, value.length < depth → readValue depth type value = .ok j) :
    ReadsBack name j := by
  have hoctets : fieldOf name j = field type name value := by
    rw [fieldOf_eq_octets, hfield, field_eq_octets]
  have hvalue := length_value_le type name value
  -- The id and the length fit, the name is found, and the value is shorter than its field.
  refine ⟨⟨?_, ?_⟩, value, ?_, ?_, ?_⟩
  · rw [hfield]
    exact htype
  · have hle := le_padded (wordSize + (valueAttribute name j).payload.length)
    rw [fieldOf_eq_octets, Attribute.length_octets] at hsize
    omega
  · rw [hfield]
    exact splitName_fieldAttribute type value hname
  · rw [hoctets]
    simp only [wordSize] at hvalue
    omega
  · rw [hfield]
    exact hread

/-! ### Fields in a row -/

theorem fieldsOf_eq_octetsOf (members : Json.Members) :
    fieldsOf members = Attribute.octetsOf (members.map fun m => valueAttribute m.1 m.2) := by
  induction members with
  | nil => rfl
  | cons m rest ih =>
      obtain ⟨name, j⟩ := m
      rw [fieldsOf, fieldOf_eq_octets, ih]
      rfl

/-- The items of a list are fields with empty names. -/
theorem itemsOf_eq_fieldsOf (items : List Json) :
    itemsOf items = fieldsOf (items.map fun j => ("", j)) := by
  induction items with
  | nil => rfl
  | cons j rest ih => rw [itemsOf, ih, List.map_cons, fieldsOf]

theorem length_fieldOf_le {m : String × Json} {members : Json.Members} (h : m ∈ members) :
    (fieldOf m.1 m.2).length ≤ (fieldsOf members).length := by
  induction members with
  | nil => simp at h
  | cons first rest ih =>
      obtain ⟨name, j⟩ := first
      rw [fieldsOf, List.length_append]
      rcases List.mem_cons.mp h with rfl | hrest
      · exact Nat.le_add_right _ _
      · exact Nat.le_trans (ih hrest) (Nat.le_add_left _ _)

/-- The reader's loop over fields, with the members that it already has in the other order. By
induction over the members. -/
theorem readFields_of_readsBack {members : Json.Members} {depth : Nat}
    (h : ∀ m ∈ members, ReadsBack m.1 m.2) (hdepth : ∀ m ∈ members,
      (fieldOf m.1 m.2).length ≤ depth) (acc : Json.Members) :
    readFields (readValue depth) acc (members.map fun m => valueAttribute m.1 m.2) =
      .ok (acc.reverse ++ members) := by
  induction members generalizing acc with
  | nil => simp [readFields]
  | cons m rest ih =>
      obtain ⟨hm, hrest⟩ := List.forall_mem_cons.mp h
      obtain ⟨hmdepth, hrestdepth⟩ := List.forall_mem_cons.mp hdepth
      obtain ⟨value, hsplit, hlt, hread⟩ := hm.reads
      rw [List.map_cons, readFields, hsplit]
      dsimp only
      rw [hread depth (Nat.lt_of_lt_of_le hlt hmdepth)]
      dsimp only
      rw [ih hrest hrestdepth, List.reverse_cons, List.append_assoc, List.singleton_append]

/-- Fields in a row are read back when each of them is. The levels of nesting need only suffice for
all fields together. -/
theorem readMembers_fieldsOf {members : Json.Members} {depth : Nat}
    (h : ∀ m ∈ members, ReadsBack m.1 m.2) (hdepth : (fieldsOf members).length ≤ depth) :
    readMembers (readValue depth) (fieldsOf members) = .ok members := by
  rw [fieldsOf_eq_octetsOf, readMembers_octetsOf (List.forall_mem_map.mpr fun m hm => (h m hm).fits)]
  exact readFields_of_readsBack h
    (fun m hm => Nat.le_trans (length_fieldOf_le hm) hdepth) []

/-! ### Values -/

theorem readValue_succ {depth : Nat} {type : UInt8} {value : Octets}
    {r : Except Error Json} (h : ∀ n, readValue (n + 1) type value = r)
    (hdepth : value.length < depth) : readValue depth type value = r := by
  -- One level is used up by the list itself, and what is left is enough for the items.
  obtain ⟨n, rfl⟩ := Nat.exists_eq_add_one.mpr (Nat.lt_of_le_of_lt (Nat.zero_le _) hdepth)
  exact h n

/-- An integer is read back from a field of a width that it fits. The two types of an integer differ
in their width only. -/
theorem readsBack_of_signed (hname : ShortName name) {n : Integer} {type : UInt8}
    {width half : Nat}
    (hfield : valueAttribute name (.number (.integer n)) =
      fieldAttribute type name (signedBytes width n.val)) (htype : type.toNat < 128)
    (hread : ∀ k value, readValue (k + 1) type value = readSigned width value)
    (hhalf : Nat.pow 2 (8 * width) = half * 2) (hlower : -half ≤ n.val) (hupper : n.val < half)
    (hsize : (fieldOf name (.number (.integer n))).length < 0x1000000) :
    ReadsBack name (.number (.integer n)) := by
  refine readsBack_of_field _ _ hfield htype hname hsize fun depth hdepth =>
    readValue_succ (fun k => ?_) hdepth
  rw [hread, readSigned_signedBytes hhalf hlower hupper, int_val]

/-- There are two widths, and the smaller one is taken where it fits. -/
theorem readsBack_of_integer (hname : ShortName name) {n : Integer}
    (hn : n.val < 0x8000000000000000)
    (hsize : (fieldOf name (.number (.integer n))).length < 0x1000000) :
    ReadsBack name (.number (.integer n)) := by
  by_cases hsmall : -0x80000000 ≤ n.val ∧ n.val < 0x80000000
  · have hfield : valueAttribute name (.number (.integer n)) =
        fieldAttribute int32Type name (signedBytes 4 n.val) := by
      show valueAttribute.numberAttribute name (.integer n) = _
      rw [valueAttribute.numberAttribute, if_pos hsmall]
    exact readsBack_of_signed hname hfield (by decide) (fun _ _ => rfl)
      (show _ = 0x80000000 * 2 from rfl) hsmall.1 hsmall.2 hsize
  · have hfield : valueAttribute name (.number (.integer n)) =
        fieldAttribute int64Type name (signedBytes 8 n.val) := by
      show valueAttribute.numberAttribute name (.integer n) = _
      rw [valueAttribute.numberAttribute, if_neg hsmall, if_pos hn]
    exact readsBack_of_signed hname hfield (by decide) (fun _ _ => rfl)
      (show _ = 0x8000000000000000 * 2 from rfl) n.lower hn hsize

/-- A list is read back when its items are. It is written as a table whose names are empty, and the
names are dropped when it is read. -/
theorem readsBack_of_array (hname : ShortName name) {items : List Json}
    (h : ∀ j ∈ items, ReadsBack "" j)
    (hsize : (fieldOf name (.array items)).length < 0x1000000) :
    ReadsBack name (.array items) := by
  refine readsBack_of_field arrayType (itemsOf items) rfl (by decide) hname
    hsize fun depth hdepth => ?_
  obtain ⟨n, rfl⟩ := Nat.exists_eq_add_one.mpr (Nat.lt_of_le_of_lt (Nat.zero_le _) hdepth)
  have hmembers : readMembers (readValue n) (itemsOf items) =
      .ok (items.map fun j => ("", j)) := by
    rw [itemsOf_eq_fieldsOf] at hdepth ⊢
    exact readMembers_fieldsOf (List.forall_mem_map.mpr h) (Nat.le_of_lt_succ hdepth)
  rw [readValue, if_neg (by decide), if_pos rfl, hmembers]
  simp [Except.map, Function.comp_def]

theorem readsBack_of_object (hname : ShortName name) {members : Json.Members}
    (hsorted : Json.SortedKeys members) (h : ∀ m ∈ members, ReadsBack m.1 m.2)
    (hsize : (fieldOf name (.object members)).length < 0x1000000) :
    ReadsBack name (.object members) := by
  refine readsBack_of_field tableType (fieldsOf members) rfl (by decide) hname
    hsize fun depth hdepth => ?_
  obtain ⟨n, rfl⟩ := Nat.exists_eq_add_one.mpr (Nat.lt_of_le_of_lt (Nat.zero_le _) hdepth)
  have hmembers : readMembers (readValue n) (fieldsOf members) = .ok members :=
    readMembers_fieldsOf h (Nat.le_of_lt_succ hdepth)
  rw [readValue, if_pos rfl, hmembers]
  show Except.ok (Json.ofMembers members) = _
  rw [Json.ofMembers, Json.sortMembers_of_sorted hsorted]

/-! ### All values -/

mutual

/-- The field of a portable value is read back, if there is room for it. By recursion over the
value, its items and its members; the values without others inside are read by any reader with at
least one level left. -/
theorem readsBack_of_portable : (j : Json) → {name : String} → ShortName name → j.Ordered →
    j.Portable → (fieldOf name j).length < 0x1000000 → ReadsBack name j
  | .null, _, hname, _, _, hsize =>
    readsBack_of_field 0 [] rfl (by decide) hname hsize fun _ hdepth =>
      readValue_succ (fun _ => rfl) hdepth
  | .bool b, _, hname, _, _, hsize =>
    readsBack_of_field boolType [if b then 1 else 0] rfl (by decide) hname
      hsize fun _ hdepth => readValue_succ (fun _ => by cases b <;> rfl) hdepth
  | .number (.integer _), _, hname, _, hn, hsize => readsBack_of_integer hname hn hsize
  | .number (.double d), _, hname, _, _, hsize =>
    readsBack_of_field doubleType (Octets.bigEndian 8 d.bits.toNat) rfl
      (by decide) hname hsize fun _ hdepth => readValue_succ (fun _ => readDouble_bits d) hdepth
  | .string s, _, hname, _, hs, hsize =>
    readsBack_of_field textType (endedText s) rfl (by decide) hname hsize
      fun _ hdepth => readValue_succ (fun n => readValue_text n hs) hdepth
  | .array items, name, hname, hordered, hitems, hsize => by
    have hle : _ ≤ (fieldOf name (.array items)).length :=
      length_value_le arrayType name (itemsOf items)
    have hinner : (itemsOf items).length < 0x1000000 := by omega
    exact readsBack_of_array hname (readsBack_items items hordered hitems hinner) hsize
  | .object members, name, hname, hordered, hmembers, hsize => by
    have hle : _ ≤ (fieldOf name (.object members)).length :=
      length_value_le tableType name (fieldsOf members)
    have hinner : (fieldsOf members).length < 0x1000000 := by omega
    exact readsBack_of_object hname hordered.1
      (readsBack_members members hordered.2 hmembers hinner) hsize

/-- The items of a portable list are fields that are read back. -/
theorem readsBack_items : (items : List Json) → Json.OrderedItems items →
    Json.PortableItems items → (itemsOf items).length < 0x1000000 →
    ∀ j ∈ items, ReadsBack "" j
  | [], _, _, _ => nofun
  | j :: rest, hordered, hitems, hsize => by
    have hempty : ShortName "" := by
      show (Utf8.encode "").length ≤ maxName
      decide
    rw [itemsOf, List.length_append] at hsize
    refine List.forall_mem_cons.mpr ⟨?_, ?_⟩
    · exact readsBack_of_portable j hempty hordered.1 hitems.1 (by omega)
    · exact readsBack_items rest hordered.2 hitems.2 (by omega)

/-- The members of a portable object are fields that are read back. -/
theorem readsBack_members : (members : Json.Members) → Json.OrderedMembers members →
    Json.PortableMembers members → (fieldsOf members).length < 0x1000000 →
    ∀ m ∈ members, ReadsBack m.1 m.2
  | [], _, _, _ => nofun
  | (name, j) :: rest, hordered, hmembers, hsize => by
    rw [fieldsOf, List.length_append] at hsize
    refine List.forall_mem_cons.mpr ⟨?_, ?_⟩
    · exact readsBack_of_portable j hmembers.1 hordered.1 hmembers.2.1 (by dsimp only; omega)
    · exact readsBack_members rest hordered.2 hmembers.2.2 (by omega)

end

/-- **Tables are read back.** An object, nested as it may be, comes back equal from the fields that
are written for it, if its texts have no zeros, its keys fit their length, its integers have 64
signed bits and the fields take fewer than `2 ^ 24` bytes. -/
theorem tables_read_back {members : Json.Members} (hordered : (Json.object members).Ordered)
    (hportable : (Json.object members).Portable) (hsize : (fieldsOf members).length < 0x1000000) :
    readTable (fieldsOf members) = .ok members := by
  have hmembers : readMembers (readValue (fieldsOf members).length) (fieldsOf members) =
      .ok members :=
    readMembers_fieldsOf (readsBack_members members hordered.2 hportable hsize) (Nat.le_refl _)
  unfold readTable
  rw [hmembers]
  show Except.ok (Json.sortMembers members) = _
  rw [Json.sortMembers_of_sorted hordered.1]

/-- An object with every kind of value, two levels deep, and a key of code zero. -/
def nestedTable : Json.Members :=
  [("\x00", .null),
    ("list", .array [.object [("", .string "é"), ("flag", .bool false)], .array [], .null]),
    ("negative", .number (.integer ⟨-0x8000000000000000, by decide, by decide⟩)),
    ("small", .number (.integer ⟨-1, by decide, by decide⟩)),
    ("zero", .number (.double ⟨0x8000000000000000, by decide⟩))]

/-- That object comes back as it was written. -/
theorem tables_read_back_nested :
    (Json.object nestedTable).Ordered ∧ (Json.object nestedTable).Portable ∧
      (fieldsOf nestedTable).length < 0x1000000 ∧
      readTable (fieldsOf nestedTable) = .ok nestedTable := by
  have hordered : (Json.object nestedTable).Ordered := by
    simp only [nestedTable, Json.Ordered, Json.OrderedMembers, Json.OrderedItems, and_true,
      true_and]
    decide
  have hportable : (Json.object nestedTable).Portable := by
    simp only [nestedTable, Json.Portable, Json.PortableMembers, Json.PortableItems,
      Utf8.ZeroFree, shortName_iff, and_true, true_and]
    decide
  have hsize : (fieldsOf nestedTable).length < 0x1000000 := by decide +kernel
  exact ⟨hordered, hportable, hsize, tables_read_back hordered hportable hsize⟩

end Bus
end Switchyard
