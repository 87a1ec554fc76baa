import Switchyard.Proofs.Json.Spelling

/-!
# Switchyard.Proofs.Json.Scalars

**Strings and integers are read from their texts.**

* A string (`readString_quotedTail`): the reader goes over the text in as many steps as there are
  plain bytes and escapes, and has the bytes of the string then. `Quotes` says so for a part of a
  text, so that parts can be put one behind the other; `quotes_escape` is the part of one character.
* An integer (`readValue_integer`): its digits are taken one by one while the number fits 64 bits
  (`takeDigits_chars`), and none of them is a zero in front of others (`exists_lead`). Nothing says
  where a number ends but what stands behind it, and so that has to be a delimiter (`Delimited`).

Both are about loops with fuel. For a string, a step of the loop takes a plain byte or a whole
escape, so `Quotes` counts steps and asks that there be no more of them than bytes; the parts of a
text then only have to be put together (`Quotes.append`). For a number there is one loop, over
digits, and the number it has collected must not exceed 64 bits on the way; as each digit makes it
larger, it is enough that the whole number does not.
-/

namespace Switchyard.Json

/-! ### Strings -/

/-- A byte that stands for itself in a quoted string: no quotation mark, no backslash, no control
character. Bytes of longer characters are plain. -/
def Plain (b : UInt8) : Prop :=
  b ≠ 0x22 ∧ b ≠ 0x5C ∧ 0x20 ≤ b

theorem readQuoted_plain {bytes : Octets} (h : ∀ b ∈ bytes, Plain b) (fuel : Nat)
    (acc rest : Octets) :
    readQuoted (fuel + bytes.length) acc (bytes ++ rest) =
      readQuoted fuel (bytes.reverse ++ acc) rest := by
  induction bytes generalizing acc with
  | nil => rfl
  | cons b bytes ih =>
      obtain ⟨⟨hquote, hback, hcontrol⟩, hbytes⟩ := List.forall_mem_cons.mp h
      rw [List.length_cons, ← Nat.add_assoc, List.cons_append, readQuoted, if_neg hquote,
        if_neg hback, if_neg (UInt8.not_lt.mpr hcontrol), ih hbytes]
      simp

theorem plain_ofNat {n : Nat} (hlow : 0x20 ≤ n) (hn : n < 256) (hquote : n ≠ 0x22)
    (hback : n ≠ 0x5C) : Plain (UInt8.ofNat n) := by
  have hne {m : UInt8} (hm : n ≠ m.toNat) : UInt8.ofNat n ≠ m := by
    rintro rfl
    exact hm (Utf8.toNat_ofNat hn).symm
  exact ⟨hne hquote, hne hback, (Utf8.le_ofNat hn).mpr hlow⟩

/-- The bytes of a character that is not escaped stand for themselves, be it one byte or up to four.
-/
theorem plain_encodeChar {c : Char} (hquote : c ≠ '"') (hback : c ≠ '\\')
    (hcontrol : 0x20 ≤ c.toNat) : ∀ b ∈ String.utf8EncodeChar c, Plain b := by
  have hne {d : Char} (hd : c ≠ d) : c.val.toNat ≠ d.toNat :=
    fun h => hd (Char.ext (UInt32.toNat_inj.mp h))
  have hquote' : c.val.toNat ≠ 0x22 := hne hquote
  have hback' : c.val.toNat ≠ 0x5C := hne hback
  have hcontrol' : 0x20 ≤ c.val.toNat := hcontrol
  have hvalid := Utf8.toNat_valid c
  fun_cases String.utf8EncodeChar c with
  | case1 v h =>
      simp only [List.forall_mem_singleton]
      exact plain_ofNat hcontrol' (by omega) hquote' hback'
  | case2 v h1 h2 =>
      simp only [List.mem_cons, List.not_mem_nil, or_false, forall_eq_or_imp, forall_eq]
      refine ⟨?_, ?_⟩
      all_goals exact plain_ofNat (by omega) (by omega) (by omega) (by omega)
  | case3 v h1 h2 h3 =>
      simp only [List.mem_cons, List.not_mem_nil, or_false, forall_eq_or_imp, forall_eq]
      refine ⟨?_, ?_, ?_⟩
      all_goals exact plain_ofNat (by omega) (by omega) (by omega) (by omega)
  | case4 v h1 h2 h3 =>
      simp only [List.mem_cons, List.not_mem_nil, or_false, forall_eq_or_imp, forall_eq]
      refine ⟨?_, ?_, ?_, ?_⟩
      all_goals exact plain_ofNat (by omega) (by omega) (by omega) (by omega)

/-- An escape takes the reader one step on. -/
theorem readQuoted_escape {s rest : Octets} {c : Char} (h : readEscape s = .ok (c, rest))
    (fuel : Nat) (acc : Octets) :
    readQuoted (fuel + 1) acc (0x5C :: s) =
      readQuoted fuel ((String.utf8EncodeChar c).reverse ++ acc) rest := by
  rw [readQuoted, if_neg (by decide), if_pos rfl, h]
  rfl

/-- Text that brings the string reader on by some bytes of the string, in a number of steps. There
are no more steps than bytes of the text, so that fuel for its bytes is enough. -/
def Quotes (text bytes : Octets) : Prop :=
  ∃ steps ≤ text.length, ∀ fuel acc rest,
    readQuoted (fuel + steps) acc (text ++ rest) = readQuoted fuel (bytes.reverse ++ acc) rest

theorem quotes_nil : Quotes [] [] :=
  ⟨0, Nat.le_refl _, fun _ _ _ => rfl⟩

theorem Quotes.append {text text' bytes bytes' : Octets} (h : Quotes text bytes)
    (h' : Quotes text' bytes') : Quotes (text ++ text') (bytes ++ bytes') := by
  obtain ⟨n, hn, hread⟩ := h
  obtain ⟨n', hn', hread'⟩ := h'
  refine ⟨n' + n, ?_, fun fuel acc rest => ?_⟩
  · rw [List.length_append]
    omega
  · rw [List.append_assoc, ← Nat.add_assoc, hread, hread', List.reverse_append, List.append_assoc]

/-- The byte of a hexadecimal digit. -/
def hexByte (d : Nat) : UInt8 :=
  UInt8.ofNat (Octets.hexDigit d).toNat

theorem encodeChar_hexDigit {d : Nat} (h : d < 16) :
    String.utf8EncodeChar (Octets.hexDigit d) = [hexByte d] := by
  have hall : ∀ k < 16, String.utf8EncodeChar (Octets.hexDigit k) = [hexByte k] := by decide
  exact hall d h

theorem hexValue?_hexByte {d : Nat} (h : d < 16) :
    Octets.hexValue? (Char.ofNat (hexByte d).toNat) = some d := by
  have hall : ∀ k < 16, Octets.hexValue? (Char.ofNat (hexByte k).toNat) = some k := by decide
  exact hall d h

/-- A control character is read from its number, which is below every surrogate. -/
theorem readEscape_control {n : Nat} (h : n < 0x20) (rest : Octets) :
    readEscape (0x75 :: 0x30 :: 0x30 :: hexByte (n / 16) :: hexByte (n % 16) :: rest) =
      .ok (Char.ofNat n, rest) := by
  have hzero : Octets.hexValue? (Char.ofNat (0x30 : UInt8).toNat) = some 0 := by decide
  have hword : hexWord? 0x30 0x30 (hexByte (n / 16)) (hexByte (n % 16)) = some n := by
    unfold hexWord?
    simp only [hzero, hexValue?_hexByte (show n / 16 < 16 by omega),
      hexValue?_hexByte (show n % 16 < 16 by omega), bind, Option.bind, pure]
    congr 1
    omega
  have hread : readHexWord (0x30 :: 0x30 :: hexByte (n / 16) :: hexByte (n % 16) :: rest) =
      .ok (n, rest) := by
    simp only [readHexWord, hword]
  have hnumber : readEscape (0x75 :: 0x30 :: 0x30 :: hexByte (n / 16) :: hexByte (n % 16) :: rest) =
      if 0xDC00 ≤ n ∧ n ≤ 0xDFFF then .error (.here .loneSurrogate rest)
      else if 0xD800 ≤ n ∧ n ≤ 0xDBFF then readLowSurrogate n rest
      else .ok (Char.ofNat n, rest) := by
    simp only [readEscape, hread]
    rfl
  rw [hnumber, if_neg (by omega), if_neg (by omega)]

/-- A character written as a backslash and a letter. -/
theorem quotes_letter {c d : Char} {b : UInt8} (hd : String.utf8EncodeChar d = [b])
    (hread : ∀ rest, readEscape (b :: rest) = .ok (c, rest)) :
    Quotes (Utf8.encodeChars ['\\', d]) (String.utf8EncodeChar c) := by
  have htext : Utf8.encodeChars ['\\', d] = [0x5C, b] := by
    rw [Utf8.encodeChars_cons, Utf8.encodeChars_cons, hd]
    rfl
  rw [htext]
  exact ⟨1, Nat.le_add_left 1 1, fun fuel acc rest => readQuoted_escape (hread rest) fuel acc⟩

/-- A control character without a letter of its own, written by its number. -/
theorem quotes_control {c : Char} (hcontrol : c.toNat < 0x20) :
    Quotes (Utf8.encodeChars
      ['\\', 'u', '0', '0', Octets.hexDigit (c.toNat / 16), Octets.hexDigit (c.toNat % 16)])
      (String.utf8EncodeChar c) := by
  have htext : Utf8.encodeChars
      ['\\', 'u', '0', '0', Octets.hexDigit (c.toNat / 16), Octets.hexDigit (c.toNat % 16)] =
      [0x5C, 0x75, 0x30, 0x30, hexByte (c.toNat / 16), hexByte (c.toNat % 16)] := by
    simp only [Utf8.encodeChars_cons, encodeChar_hexDigit (show c.toNat / 16 < 16 by omega),
      encodeChar_hexDigit (show c.toNat % 16 < 16 by omega)]
    rfl
  have hread (rest : Octets) : readEscape
      (0x75 :: 0x30 :: 0x30 :: hexByte (c.toNat / 16) :: hexByte (c.toNat % 16) :: rest) =
      .ok (c, rest) := by
    rw [readEscape_control hcontrol, Char.ofNat_toNat]
  rw [htext]
  exact ⟨1, Nat.le_add_left 1 5, fun fuel acc rest => readQuoted_escape (hread rest) fuel acc⟩

/-- A character as it is written in a quoted string is read as the character. There are seven
letters for escapes, and everything else is a number or the character itself. -/
theorem quotes_escape (c : Char) :
    Quotes (Utf8.encodeChars (escape c)) (String.utf8EncodeChar c) := by
  unfold escape
  split
  · subst_vars
    exact quotes_letter rfl fun _ => rfl
  split
  · subst_vars
    exact quotes_letter rfl fun _ => rfl
  split
  · subst_vars
    exact quotes_letter rfl fun _ => rfl
  split
  · subst_vars
    exact quotes_letter rfl fun _ => rfl
  split
  · subst_vars
    exact quotes_letter rfl fun _ => rfl
  split
  · subst_vars
    exact quotes_letter rfl fun _ => rfl
  split
  · subst_vars
    exact quotes_letter rfl fun _ => rfl
  split
  · exact quotes_control ‹_›
  · rename_i hquote hback _ _ _ _ _ hcontrol
    rw [Utf8.encodeChars_cons, Utf8.encodeChars_nil, List.append_nil]
    exact ⟨_, Nat.le_refl _, fun fuel acc rest =>
      readQuoted_plain (plain_encodeChar hquote hback (by omega)) fuel acc rest⟩

theorem quotes_chars (cs : List Char) :
    Quotes (Utf8.encodeChars (cs.flatMap escape)) (Utf8.encodeChars cs) := by
  induction cs with
  | nil => exact quotes_nil
  | cons c cs ih =>
      rw [List.flatMap_cons, Utf8.encodeChars_append, Utf8.encodeChars_cons]
      exact (quotes_escape c).append ih

/-- A string is read from its text in quotation marks. -/
theorem readString_quotedTail (s : String) {fuel : Nat} (hfuel : (quotedTail s).length ≤ fuel)
    (rest : Octets) : readString fuel (quotedTail s ++ rest) = .ok (s, rest) := by
  obtain ⟨steps, hsteps, hread⟩ := quotes_chars s.toList
  have hlength : steps + 1 ≤ fuel := by
    rw [quotedTail, List.length_append, List.length_singleton] at hfuel
    omega
  obtain ⟨more, rfl⟩ := Nat.exists_eq_add_of_le' hlength
  have hquoted : readQuoted (more + (steps + 1)) [] (quotedTail s ++ rest) =
      .ok (Utf8.encode s, rest) := by
    rw [quotedTail, List.append_assoc, Nat.add_comm steps 1, ← Nat.add_assoc, hread,
      List.append_nil, List.singleton_append, readQuoted, if_pos rfl, List.reverse_reverse]
    rfl
  unfold readString
  simp only [hquoted, bind, Except.bind, Utf8.decode?_encode]
  rfl

/-! ### Numbers -/

/-- What stands behind a value in a list or in an object, and behind a whole text. -/
def Delimited (rest : Octets) : Prop :=
  ∀ b ∈ rest.head?, b = 0x2C ∨ b = 0x5D ∨ b = 0x7D

/-- The digits of a number. -/
def digits (n : Nat) : Octets :=
  Utf8.encodeChars (Nat.toDigits 10 n)

/-- The byte of a decimal digit. -/
theorem encodeChar_digit {c : Char} (h : c.isDigit = true) :
    ∃ b, String.utf8EncodeChar c = [b] ∧ isDigit b = true ∧
      digitValue b = c.toNat - '0'.toNat := by
  obtain ⟨hlow, hhigh⟩ := Char.isDigit_iff_toNat.mp h
  have hlow' : 0x30 ≤ c.val.toNat := hlow
  have hhigh' : c.val.toNat ≤ 0x39 := hhigh
  have hencode : String.utf8EncodeChar c = [UInt8.ofNat c.val.toNat] := by
    fun_cases String.utf8EncodeChar c with
    | case1 v h => rfl
    | _ => omega
  have hlt : c.val.toNat < 256 := by omega
  refine ⟨_, hencode, ?_, ?_⟩
  · rw [isDigit, Bool.and_eq_true, decide_eq_true_eq, decide_eq_true_eq, Utf8.le_ofNat hlt,
      Utf8.ofNat_le hlt]
    exact ⟨hlow, hhigh⟩
  · rw [digitValue, Utf8.toNat_ofNat hlt]
    rfl

theorem takeDigits_delimited (n count : Nat) {rest : Octets} (hrest : Delimited rest) :
    takeDigits n count rest = ⟨n, count, false, rest⟩ := by
  cases rest with
  | nil => rfl
  | cons b rest =>
      have hb : isDigit b = false := by
        rcases hrest b rfl with rfl | rfl | rfl
        all_goals rfl
      simp [takeDigits, hb]

/-- Digits are taken up to the delimiter while the number fits. By induction on the digits, with the
number so far arbitrary. -/
theorem takeDigits_chars {cs : List Char} (hcs : ∀ c ∈ cs, c.isDigit = true) {n : Nat}
    (hfit : Nat.ofDigitChars 10 cs n < 0x10000000000000000) (count : Nat) {rest : Octets}
    (hrest : Delimited rest) :
    takeDigits n count (Utf8.encodeChars cs ++ rest) =
      ⟨Nat.ofDigitChars 10 cs n, count + cs.length, false, rest⟩ := by
  induction cs generalizing n count with
  | nil => exact takeDigits_delimited n count hrest
  | cons c cs ih =>
      obtain ⟨hc, hcs⟩ := List.forall_mem_cons.mp hcs
      obtain ⟨b, hencode, hdigit, hvalue⟩ := encodeChar_digit hc
      rw [Nat.ofDigitChars_cons] at hfit ⊢
      -- Every further digit makes the number larger.
      have hnext : n * 10 + digitValue b < 0x10000000000000000 := by
        have hsplit : Nat.ofDigitChars 10 cs (10 * n + (c.toNat - '0'.toNat)) =
            10 ^ cs.length * (10 * n + (c.toNat - '0'.toNat)) + Nat.ofDigitChars 10 cs 0 :=
          Nat.ofDigitChars_eq_ofDigitChars_zero
        have hpow : 0 < 10 ^ cs.length := Nat.pow_pos (by decide)
        have hmul := Nat.le_mul_of_pos_left (10 * n + (c.toNat - '0'.toNat)) hpow
        omega
      have hvalue' : n * 10 + digitValue b = 10 * n + (c.toNat - '0'.toNat) := by omega
      rw [Utf8.encodeChars_cons, hencode, List.singleton_append, List.cons_append, takeDigits,
        if_pos hdigit]
      dsimp only
      rw [if_pos hnext, hvalue', ih hcs hfit, List.length_cons]
      congr 1
      omega

/-- A number other than zero does not begin with a zero. -/
theorem exists_lead (n : Nat) (h : 0 < n) :
    ∃ d cs, 0 < d ∧ d < 10 ∧ Nat.toDigits 10 n = d.digitChar :: cs := by
  induction n using Nat.strongRecOn with
  | ind n ih =>
      by_cases hn : n < 10
      · exact ⟨n, [], h, hn, Nat.toDigits_of_lt_base hn⟩
      · obtain ⟨d, cs, hd, hd10, hcs⟩ := ih (n / 10) (by omega) (by omega)
        refine ⟨d, cs ++ [(n % 10).digitChar], hd, hd10, ?_⟩
        rw [Nat.toDigits_of_base_le (by decide) (Nat.le_of_not_lt hn), hcs, List.cons_append]

theorem digits_eq_cons (n : Nat) : ∃ b s, digits n = b :: s ∧ isDigit b = true := by
  obtain ⟨c, cs, hcs⟩ := List.exists_cons_of_ne_nil (Nat.toDigits_ne_nil (n := n) (b := 10))
  have hc : c.isDigit = true :=
    Nat.isDigit_of_mem_toDigits (b := 10) (n := n) (by decide) (by decide) (by simp [hcs])
  obtain ⟨b, hencode, hdigit, -⟩ := encodeChar_digit hc
  refine ⟨b, Utf8.encodeChars cs, ?_, hdigit⟩
  rw [digits, hcs, Utf8.encodeChars_cons, hencode, List.singleton_append]

theorem readTail_delimited (negative : Bool) (n : Nat) {rest : Octets} (hrest : Delimited rest) :
    readTail negative n rest = ofInteger negative n rest := by
  cases rest with
  | nil => rfl
  | cons b rest =>
      rcases hrest b rfl with rfl | rfl | rfl
      all_goals rfl

/-- The digits of a number of 64 bits are read as the number. Behind them the reader looks for a
point or an exponent, and a delimiter is neither. -/
theorem readNumber_digits (negative : Bool) {n : Nat} (hn : n < 0x10000000000000000)
    {rest : Octets} (hrest : Delimited rest) :
    readNumber negative (digits n ++ rest) = ofInteger negative n rest := by
  -- A zero in front is read alone; all other digits are taken by `takeDigits`.
  rcases Nat.eq_zero_or_pos n with rfl | hpos
  · rw [← readTail_delimited negative 0 hrest]
    cases rest with
    | nil => rfl
    | cons b rest =>
        rcases hrest b rfl with rfl | rfl | rfl
        all_goals rfl
  · obtain ⟨d, cs, hd, hd10, hlead⟩ := exists_lead n hpos
    have hdigits : ∀ c ∈ d.digitChar :: cs, c.isDigit = true := by
      rw [← hlead]
      exact fun c hc => Nat.isDigit_of_mem_toDigits (by decide) (by decide) hc
    obtain ⟨hdigit, hcs⟩ := List.forall_mem_cons.mp hdigits
    obtain ⟨b, hencode, hisDigit, hvalue⟩ := encodeChar_digit hdigit
    have hnumber : Nat.ofDigitChars 10 cs (digitValue b) = n := by
      have hall := Nat.ofDigitChars_ten_toDigits (n := n)
      rw [hlead, Nat.ofDigitChars_cons, Nat.mul_zero, Nat.zero_add] at hall
      rw [hvalue, hall]
    have htake := takeDigits_chars hcs (n := digitValue b) (by rw [hnumber]; exact hn) 0 hrest
    have hne : b ≠ 0x30 := by
      have hall : ∀ k < 10, 0 < k → (Nat.digitChar k).toNat - '0'.toNat ≠ 0 := by decide
      rintro rfl
      exact hall d hd10 hd hvalue.symm
    rw [digits, hlead, Utf8.encodeChars_cons, hencode, List.singleton_append, List.cons_append,
      readNumber.eq_def]
    dsimp only
    rw [if_neg hne, if_pos hisDigit, htake]
    dsimp only
    rw [if_neg Bool.false_ne_true, readTail_delimited negative _ hrest, hnumber]

theorem ofInteger_false {n : Nat} {i : Integer} (hi : i.val = n) (rest : Octets) :
    ofInteger false n rest = .ok (.integer i, rest) := by
  have hof : Integer.ofInt? n = some i := by
    rw [← hi, Integer.ofInt?, dif_pos ⟨i.lower, i.upper⟩]
  unfold ofInteger
  rw [if_neg (by simp), if_neg Bool.false_ne_true, hof]

theorem ofInteger_true {n : Nat} {i : Integer} (hi : i.val = -(n : Int)) (hn : 0 < n)
    (rest : Octets) : ofInteger true n rest = .ok (.integer i, rest) := by
  have hlower := i.lower
  have hof : Integer.ofInt? (-(n : Int)) = some i := by
    rw [← hi, Integer.ofInt?, dif_pos ⟨i.lower, i.upper⟩]
  unfold ofInteger
  rw [if_neg (by omega), if_pos rfl, hof]

theorem encode_toString (n : Nat) : Utf8.encode (toString n) = digits n := by
  rw [Nat.toString_eq_ofList_toDigits, Utf8.encode_ofList, digits]

theorem numeral_negative {i : Integer} {n : Nat} (hi : i.val = -((n + 1 : Nat) : Int)) :
    numeral (.integer i) = 0x2D :: digits (n + 1) := by
  have hneg : i.val = Int.negSucc n := hi
  rw [numeral, hneg]
  show Utf8.encode ("-" ++ toString (n + 1)) = _
  rw [Utf8.encode_append, encode_toString]
  rfl

theorem numeral_natural {i : Integer} {n : Nat} (hi : i.val = n) :
    numeral (.integer i) = digits n := by
  rw [numeral, hi]
  exact encode_toString n

theorem readValue_digit {b : UInt8} (h : isDigit b = true) (fuel depth : Nat) (s : Octets) :
    readValue (fuel + 1) depth (b :: s) =
      (readNumber false (b :: s)).map fun read => (.number read.1, read.2) := by
  -- A digit is no blank and none of the bytes that other values begin with.
  have hne {c : UInt8} (hc : isDigit c = false) : b ≠ c := by
    rintro rfl
    rw [h] at hc
    exact absurd hc (by decide)
  have hblank : isBlank b = false := by
    unfold isBlank
    simp [hne (c := 0x20) rfl, hne (c := 0x0A) rfl, hne (c := 0x09) rfl, hne (c := 0x0D) rfl]
  rw [readValue, skipBlanks, hblank, if_neg Bool.false_ne_true]
  dsimp only
  rw [if_neg (hne rfl), if_neg (hne rfl), if_neg (hne rfl), if_neg (hne rfl), if_pos h]
  cases readNumber false (b :: s) <;> rfl

/-- An integer is read from its text. A negative one is read without its sign, and the sign decides
how the digits are taken. -/
theorem readValue_integer (i : Integer) (fuel depth : Nat) {rest : Octets}
    (hrest : Delimited rest) :
    readValue (fuel + 1) depth (numeral (.integer i) ++ rest) =
      .ok (.number (.integer i), rest) := by
  have hlower := i.lower
  have hupper := i.upper
  by_cases hneg : i.val < 0
  · have hval : i.val = -((i.val.natAbs - 1 + 1 : Nat) : Int) := by omega
    have hread : readNumber true (digits (i.val.natAbs - 1 + 1) ++ rest) =
        .ok (.integer i, rest) := by
      rw [readNumber_digits true (by omega) hrest, ofInteger_true hval (by omega)]
    rw [numeral_negative hval, List.cons_append]
    show (readNumber true (digits (i.val.natAbs - 1 + 1) ++ rest)).bind _ = _
    rw [hread]
    rfl
  · have hval : i.val = (i.val.natAbs : Int) := by omega
    have hread : readNumber false (digits i.val.natAbs ++ rest) = .ok (.integer i, rest) := by
      rw [readNumber_digits false (by omega) hrest, ofInteger_false hval]
    obtain ⟨b, s, hdigits, hb⟩ := digits_eq_cons i.val.natAbs
    rw [hdigits, List.cons_append] at hread
    rw [numeral_natural hval, hdigits, List.cons_append, readValue_digit hb, hread]
    rfl

end Switchyard.Json
