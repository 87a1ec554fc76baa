import Switchyard.Proofs.Json.Spelling

/-!
# Switchyard.Proofs.Json.Widths

How many bytes texts take as they are written in quotation marks.

* `width` — a text by itself, character by character (`charWidth`) or byte by byte (`bytesWidth`).
* `texts` — the strings and keys in a value. They are a part of its spelling
  (`texts_le_spelling`).

The width of a text is needed in two forms. Of a text that is known it is counted character by
character, as the printer writes it. Of a text that is being read it is counted byte by byte, since
the reader has bytes and not characters (`bytesWidth_encode`). Both agree because only ASCII
characters are escaped, so that the bytes of any other character stand for themselves.
-/

namespace Switchyard.Json

/-! ### Texts in quotation marks -/

/-- Bytes of a character in a quoted string, its escape if it has one. -/
def charWidth (c : Char) : Nat :=
  (Utf8.encodeChars (escape c)).length

/-- Bytes of a text in a quoted string. -/
def width (s : String) : Nat :=
  (Utf8.encodeChars (s.toList.flatMap escape)).length

theorem length_quotedTail (s : String) : (quotedTail s).length = width s + 1 := by
  rw [quotedTail, List.length_append]
  rfl

@[simp] theorem width_append (s t : String) : width (s ++ t) = width s + width t := by
  simp only [width, String.toList_append, List.flatMap_append, Utf8.encodeChars_append,
    List.length_append]

theorem width_eq_sum (s : String) : width s = (s.toList.map charWidth).sum := by
  unfold width
  induction s.toList with
  | nil => rfl
  | cons c cs ih =>
      rw [List.flatMap_cons, Utf8.encodeChars_append, List.length_append, ih, List.map_cons,
        List.sum_cons]
      rfl

/-- A text of characters that stand for themselves in one byte. -/
theorem width_of_forall {s : String} (h : ∀ c ∈ s.toList, charWidth c = 1) :
    width s = s.length := by
  rw [width_eq_sum, List.map_congr_left h, List.map_const', List.sum_replicate_nat, Nat.mul_one,
    String.length_toList]

theorem charWidth_digit {c : Char} (h : c.isDigit = true) : charWidth c = 1 := by
  have hall : ∀ n < 0x80, (Char.ofNat n).isDigit = true → charWidth (Char.ofNat n) = 1 := by
    decide
  have hhigh : c.toNat < 0x80 := Nat.lt_of_le_of_lt (Char.isDigit_iff_toNat.mp h).2 (by decide)
  have hdigit := hall c.toNat hhigh
  rw [Char.ofNat_toNat] at hdigit
  exact hdigit h

theorem width_toString (n : Nat) : width (toString n) = (Nat.toDigits 10 n).length := by
  rw [Nat.toString_eq_ofList_toDigits]
  refine (width_of_forall fun c hc => charWidth_digit ?_).trans String.length_ofList
  rw [String.toList_ofList] at hc
  exact Nat.isDigit_of_mem_toDigits (by decide) (by decide) hc

/-! ### Bytes of texts -/

/-- Bytes of a byte of a string, when the string is written in quotation marks. A byte of a longer
character stands for itself, and an ASCII byte is the character. -/
def byteWidth (b : UInt8) : Nat :=
  if b < 0x80 then charWidth (Char.ofNat b.toNat) else 1

/-- Bytes of some bytes of a string, when the string is written in quotation marks. -/
def bytesWidth (s : Octets) : Nat :=
  (s.map byteWidth).sum

theorem bytesWidth_append (s t : Octets) : bytesWidth (s ++ t) = bytesWidth s + bytesWidth t := by
  simp [bytesWidth]

theorem bytesWidth_cons (b : UInt8) (s : Octets) :
    bytesWidth (b :: s) = byteWidth b + bytesWidth s :=
  List.sum_cons

theorem bytesWidth_reverse (s : Octets) : bytesWidth s.reverse = bytesWidth s := by
  simp [bytesWidth]

theorem byteWidth_ofNat_high {n : Nat} (hlow : 0x80 ≤ n) (hn : n < 256) :
    byteWidth (UInt8.ofNat n) = 1 := by
  have hhigh : ¬UInt8.ofNat n < 0x80 := by
    rw [UInt8.lt_iff_toNat_lt, Utf8.toNat_ofNat hn]
    exact Nat.not_lt.mpr hlow
  exact if_neg hhigh

/-- A byte that stands for itself. -/
theorem byteWidth_plain {b : UInt8} (hquote : b ≠ 0x22) (hback : b ≠ 0x5C) (hcontrol : ¬b < 0x20) :
    byteWidth b = 1 := by
  have hall : ∀ n < 0x80, n ≠ 0x22 → n ≠ 0x5C → ¬n < 0x20 → charWidth (Char.ofNat n) = 1 := by
    decide
  unfold byteWidth
  split
  next hascii =>
    refine hall b.toNat (UInt8.lt_iff_toNat_lt.mp hascii) ?_ ?_ ?_
    · exact fun heq => hquote (UInt8.toNat_inj.mp heq)
    · exact fun heq => hback (UInt8.toNat_inj.mp heq)
    · exact fun hlt => hcontrol (UInt8.lt_iff_toNat_lt.mpr hlt)
  next => rfl

/-- Only ASCII characters are escaped. All others stand for themselves in a text. -/
theorem escape_high {c : Char} (h : 0x80 ≤ c.toNat) : escape c = [c] := by
  have hne {d : Char} (hd : d.toNat < 0x80) : c ≠ d := by
    rintro rfl
    omega
  unfold escape
  rw [if_neg (hne (by decide)), if_neg (hne (by decide)), if_neg (hne (by decide)),
    if_neg (hne (by decide)), if_neg (hne (by decide)), if_neg (hne (by decide)),
    if_neg (hne (by decide)), if_neg (by omega)]

theorem bytesWidth_encodeChar (c : Char) :
    bytesWidth (String.utf8EncodeChar c) = charWidth c := by
  have hvalid := Utf8.toNat_valid c
  by_cases hascii : c.val.toNat < 0x80
  · have hencode : String.utf8EncodeChar c = [UInt8.ofNat c.val.toNat] := by
      unfold String.utf8EncodeChar
      exact if_pos (by omega)
    have hbyte : byteWidth (UInt8.ofNat c.val.toNat) = charWidth c := by
      unfold byteWidth
      rw [if_pos, Utf8.toNat_ofNat (by omega)]
      · exact congrArg charWidth (Char.ofNat_toNat c)
      · rw [UInt8.lt_iff_toNat_lt, Utf8.toNat_ofNat (by omega)]
        exact hascii
    rw [hencode, ← hbyte]
    rfl
  · have hwidth : charWidth c = (String.utf8EncodeChar c).length := by
      unfold charWidth
      rw [escape_high (Nat.not_lt.mp hascii), Utf8.encodeChars_cons, Utf8.encodeChars_nil,
        List.append_nil]
    rw [hwidth]
    fun_cases String.utf8EncodeChar c with
    | case1 v h => omega
    | _ =>
        simp only [bytesWidth, List.map_cons, List.map_nil, List.sum_cons, List.sum_nil,
          List.length_cons, List.length_nil]
        repeat rw [byteWidth_ofNat_high (by omega) (by omega)]
        rfl

theorem bytesWidth_encode (s : String) : bytesWidth (Utf8.encode s) = width s := by
  unfold width Utf8.encode
  induction s.toList with
  | nil => rfl
  | cons c cs ih =>
      rw [Utf8.encodeChars_cons, bytesWidth_append, ih, bytesWidth_encodeChar, List.flatMap_cons,
        Utf8.encodeChars_append, List.length_append]
      rfl

theorem charWidth_le (c : Char) : charWidth c ≤ 6 := by
  by_cases hascii : c.toNat < 0x80
  · have hall : ∀ n < 0x80, charWidth (Char.ofNat n) ≤ 6 := by decide
    have := hall c.toNat hascii
    rwa [Char.ofNat_toNat] at this
  · unfold charWidth
    rw [escape_high (Nat.not_lt.mp hascii)]
    have hsize := Char.utf8Size_le_four c
    rw [Utf8.length_encodeChars, List.map_singleton, List.sum_singleton]
    omega

/-! ### Values -/

mutual

/-- Bytes of the strings and keys in a value, as they are written in quotation marks. The marks
themselves are not counted. -/
def texts : Json → Nat
  | .string s => width s
  | .array items => textsItems items
  | .object members => textsMembers members
  | _ => 0

/-- Bytes of the strings and keys in a list of values. -/
def textsItems : List Json → Nat
  | [] => 0
  | j :: rest => texts j + textsItems rest

/-- Bytes of the strings and keys in some members. -/
def textsMembers : Members → Nat
  | [] => 0
  | (key, j) :: rest => width key + texts j + textsMembers rest

end

theorem textsItems_eq (items : List Json) : textsItems items = (items.map texts).sum := by
  induction items with
  | nil => rfl
  | cons j rest ih => rw [textsItems, ih, List.map_cons, List.sum_cons]

theorem textsMembers_insertMember_le (key : String) (j : Json) (members : Members) :
    textsMembers (insertMember key j members) ≤ width key + texts j + textsMembers members := by
  fun_induction insertMember key j members with
  | case1 => exact Nat.le_refl _
  | case2 => exact Nat.le_refl _
  | case3 =>
      simp only [textsMembers]
      omega
  | case4 k v rest _ _ ih =>
      simp only [textsMembers]
      omega

/-! ### Texts in a spelling -/

mutual

/-- A value is not shorter than its texts. By recursion over the value, its items and its members.
-/
theorem texts_le_spelling : (j : Json) → texts j ≤ j.spelling.length
  | .null => Nat.zero_le _
  | .bool _ => Nat.zero_le _
  | .number _ => Nat.zero_le _
  | .string s => by
    rw [texts, spelling, List.length_cons, length_quotedTail]
    omega
  | .array [] => Nat.zero_le _
  | .array (j :: rest) => by
    have hj := texts_le_spelling j
    have hrest := textsItems_le_spelling rest
    rw [texts, textsItems, spelling, List.length_cons, List.length_append]
    omega
  | .object [] => Nat.zero_le _
  | .object ((key, j) :: rest) => by
    have hj := texts_le_spelling j
    have hrest := textsMembers_le_spelling rest
    rw [texts, textsMembers, spelling]
    simp only [List.length_cons, List.length_append, length_quotedTail]
    omega

theorem textsItems_le_spelling : (items : List Json) →
    textsItems items ≤ (spellingItems items).length
  | [] => Nat.zero_le _
  | j :: rest => by
    have hj := texts_le_spelling j
    have hrest := textsItems_le_spelling rest
    rw [textsItems, spellingItems, List.length_cons, List.length_append]
    omega

theorem textsMembers_le_spelling : (members : Members) →
    textsMembers members ≤ (spellingMembers members).length
  | [] => Nat.zero_le _
  | (key, j) :: rest => by
    have hj := texts_le_spelling j
    have hrest := textsMembers_le_spelling rest
    rw [textsMembers, spellingMembers]
    simp only [List.length_cons, List.length_append, length_quotedTail]
    omega

end

end Switchyard.Json
