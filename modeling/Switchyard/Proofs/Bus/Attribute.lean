import Switchyard.Bus.Attribute
import Switchyard.Proofs.Octets

/-!
# Switchyard.Proofs.Bus.Attribute

**A run of attributes is read back as it was written** (`parseAll_octetsOf`), while every attribute
fits the word in front of it: seven bits for the id and 24 for the length (`Attribute.Fits`).

* `length_write` — an attribute with its padding takes a multiple of four bytes.
* `parse_octets_append` — one attribute is taken from the front of a run, padding and all.

The word is a sum of three parts that do not overlap as long as the attribute fits: the flag above
bit 31, the id from bit 24, the length below. Everything that the reader takes from a word is read
off that sum by a division. What is behind the padding is arbitrary in `parse_octets_append`, so
that a run is read by one induction, and each round of the reader leaves the run without its first
attribute.

* `parseOnto_octetsOf` — the reader's loop with what it has already collected. The fuel is the
  number of bytes, of which there are at least as many as attributes (`length_le_octetsOf`).
-/

namespace Switchyard.Bus

/-! ### Alignment -/

theorem le_padded (n : Nat) : n ≤ padded n := by
  unfold padded
  omega

theorem padded_lt (n : Nat) : padded n < n + 4 := by
  unfold padded
  omega

@[simp] theorem length_padding (n : Nat) : (padding n).length = padded n - n :=
  List.length_replicate

/-! ### The word in front -/

@[simp] theorem length_attributeWord (id : UInt8) (flag : Bool) (length : Nat) :
    (attributeWord id flag length).length = wordSize :=
  Octets.length_bigEndian _ _

/-- A number is read from the bytes that spell it, whatever stands behind them. A number that is too
large for them comes back without its upper part. -/
theorem leadingNumber_append (width n : Nat) (rest : Octets) :
    leadingNumber width (Octets.bigEndian width n ++ rest) = .ok (n % 256 ^ width) := by
  have hsplit : Octets.splitExact? width (Octets.bigEndian width n ++ rest) =
      some (Octets.bigEndian width n, rest) :=
    Octets.splitExact?_eq_some_iff.mpr ⟨rfl, Octets.length_bigEndian _ _⟩
  unfold leadingNumber
  rw [hsplit]
  simp only [Octets.ofBigEndian_bigEndian]

namespace Attribute

/-- What is written for an attribute. -/
def octets (a : Attribute) : Octets :=
  write a.id a.named a.payload

/-- What is written for attributes one after another. -/
def octetsOf (as : List Attribute) : Octets :=
  as.flatMap octets

/-- The word in front has room for the id and the length of an attribute. The length is told with
the word itself, which is why it is counted in. An attribute that does not fit is written as well,
and read back as another one. -/
structure Fits (a : Attribute) : Prop where
  id_lt : a.id.toNat < 128
  length_lt : wordSize + a.payload.length < 0x1000000

/-- The word of an attribute that fits, as a number. For one that does not fit the parts of the sum
overlap, and the number says nothing. -/
def word (a : Attribute) : Nat :=
  (if a.named then 0x80000000 else 0) + a.id.toNat * 0x1000000 + (wordSize + a.payload.length)

/-- The word of an attribute that fits is that number, most significant byte first. The id and the
length are written apart from one another, so this is where both bounds are used. -/
theorem attributeWord_eq {a : Attribute} (h : a.Fits) :
    attributeWord a.id a.named (wordSize + a.payload.length) =
      Octets.bigEndian wordSize a.word := by
  have hid := h.id_lt
  have hlength := h.length_lt
  have hflag : (a.named = true ∨ 128 ≤ a.id.toNat) ↔ a.named = true :=
    or_iff_left (Nat.not_le.mpr hid)
  unfold attributeWord word
  simp only [hflag, Nat.mod_eq_of_lt hid, Nat.mod_eq_of_lt hlength]

/-! ### One attribute -/

/-- Headers, payload and padding of an attribute make up a multiple of four bytes. -/
theorem length_write (id : UInt8) (flag : Bool) (payload : Octets) :
    (write id flag payload).length = padded (wordSize + payload.length) := by
  have hle := le_padded (wordSize + payload.length)
  unfold write
  rw [List.length_append, List.length_append, length_attributeWord, length_padding]
  omega

theorem length_octets (a : Attribute) : a.octets.length = padded (wordSize + a.payload.length) :=
  length_write _ _ _

/-- An attribute is taken from the front of a run together with its padding, and nothing behind the
padding is looked at. The reader does not require that what it skips as padding is made up of zeros.
-/
theorem parse_octets_append {a : Attribute} (h : a.Fits) (rest : Octets) :
    parse (a.octets ++ rest) = .ok (a, rest) := by
  have hid := h.id_lt
  have hlength := h.length_lt
  let behind := a.payload ++ (padding (wordSize + a.payload.length) ++ rest)
  have hlayout : a.octets ++ rest = Octets.bigEndian wordSize a.word ++ behind := by
    unfold octets write
    simp only [attributeWord_eq h, List.append_assoc, behind]
  -- The three parts of the word do not overlap.
  have hword : a.word % 256 ^ wordSize = a.word := by
    unfold word
    exact Nat.mod_eq_of_lt (by split <;> simp only [wordSize] at * <;> omega)
  have hlow : a.word % 0x1000000 = wordSize + a.payload.length := by
    unfold word
    split <;> omega
  have hmiddle : a.word / 0x1000000 % 128 = a.id.toNat := by
    unfold word
    split <;> omega
  have hhigh : decide (0x80000000 ≤ a.word) = a.named := by
    unfold word
    cases a.named <;> simp <;> omega
  -- What the reader finds: the number, what stands behind the word, and the run behind the padding.
  have hnumber : leadingNumber wordSize (a.octets ++ rest) = .ok a.word := by
    rw [hlayout, leadingNumber_append, hword]
  have hbehind : (a.octets ++ rest).drop wordSize = behind := by
    rw [hlayout, List.drop_left' (Octets.length_bigEndian _ _)]
  have hpadding : (padding (wordSize + a.payload.length) ++ rest).drop
      (padded (wordSize + a.payload.length) - (wordSize + a.payload.length)) = rest := by
    rw [← length_padding, List.drop_left]
  unfold parse
  simp only [hnumber, hlow, hbehind, Nat.add_sub_cancel_left, behind, Octets.splitExact?_append,
    hmiddle, hhigh, hpadding, UInt8.ofNat_toNat]
  rw [if_neg (by omega)]

/-! ### Runs -/

@[simp] theorem octetsOf_nil : octetsOf [] = [] := rfl

@[simp] theorem octetsOf_cons (a : Attribute) (as : List Attribute) :
    octetsOf (a :: as) = a.octets ++ octetsOf as := rfl

/-- No attribute is written as nothing, so that the reader gets on with every round. -/
theorem octets_ne_nil (a : Attribute) : a.octets ≠ [] := by
  intro h
  have hlength := a.length_octets
  have hle := le_padded (wordSize + a.payload.length)
  rw [h, List.length_nil] at hlength
  simp only [wordSize] at *
  omega

/-- A run has at least as many bytes as attributes. The reader's fuel is counted in bytes. -/
theorem length_le_octetsOf (as : List Attribute) : as.length ≤ (octetsOf as).length := by
  induction as with
  | nil => exact Nat.le_refl _
  | cons a as ih =>
      have hpos := List.length_pos_iff.mpr a.octets_ne_nil
      rw [octetsOf_cons, List.length_append, List.length_cons]
      omega

/-- The reader's loop puts the attributes of a run behind those that it has, which it holds the
other way round. -/
theorem parseOnto_octetsOf {as : List Attribute} (h : ∀ a ∈ as, a.Fits) {fuel : Nat}
    (hfuel : as.length ≤ fuel) (acc : List Attribute) :
    parseOnto fuel acc (octetsOf as) = .ok (acc.reverse ++ as) := by
  induction as generalizing fuel acc with
  | nil => rw [octetsOf_nil, parseOnto, List.append_nil]
  | cons a as ih =>
      obtain ⟨ha, has⟩ := List.forall_mem_cons.mp h
      obtain ⟨fuel, rfl⟩ : ∃ n, fuel = n + 1 :=
        Nat.exists_eq_add_one.mpr (Nat.lt_of_lt_of_le (Nat.succ_pos _) hfuel)
      have hne : octetsOf (a :: as) ≠ [] := by
        simp [a.octets_ne_nil]
      -- One round takes the first attribute, and its bytes are not empty.
      have hstep : parseOnto (fuel + 1) acc (octetsOf (a :: as)) =
          parseOnto fuel (a :: acc) (octetsOf as) := by
        rw [parseOnto.eq_3 _ _ _ hne, octetsOf_cons, parse_octets_append ha]
      rw [hstep, ih has (Nat.le_of_succ_le_succ hfuel), List.reverse_cons, List.append_assoc,
        List.singleton_append]

/-- Attributes that fit are read back from what is written for them. -/
theorem parseAll_octetsOf {as : List Attribute} (h : ∀ a ∈ as, a.Fits) :
    parseAll (octetsOf as) = .ok as :=
  parseOnto_octetsOf h (length_le_octetsOf as) []

end Attribute
end Switchyard.Bus
