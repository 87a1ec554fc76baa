import Mathlib.Algebra.Ring.Nat
import Mathlib.Data.String.Basic
import Switchyard.Text.Utf8

/-!
# Switchyard.Proofs.Text.Utf8

**What is encoded is read back.** The decoder, started between two characters, takes the bytes of a
character to that character and stands between two characters again (`run_encodeChar`). So it reads
the bytes of a text as that text (`decode?_encode`).

* `start_lead` — a first byte of two, three or four: how many more it wants and in which range.
* `feed_tail`, `feed_last` — a byte in the range that is wanted.

A text has a zero byte only where it has the character of code zero (`zero_notMem_encode`).

**Texts and their bytes stand in the same order** (`encode_lt_encode`). Of two characters the one
with the smaller code has the smaller bytes, whatever follows them (`encodeChar_append_lt`): a
longer encoding begins with a larger byte, and encodings of one length have the digits of the codes
to the base 64.

The two results use the same case distinction, that of a character by the length of its encoding. In
each case the bytes are numbers built from the digits of the code, and `omega` does the arithmetic
once the decoder, or the order, has been brought down to them.
-/

namespace Switchyard.Utf8

/-! ### Bytes as numbers -/

theorem toNat_ofNat {n : Nat} (h : n < 256) : (UInt8.ofNat n).toNat = n :=
  UInt8.toNat_ofNat_of_lt' h

theorem le_ofNat {low : UInt8} {n : Nat} (h : n < 256) : low ≤ UInt8.ofNat n ↔ low.toNat ≤ n := by
  rw [UInt8.le_iff_toNat_le, toNat_ofNat h]

theorem ofNat_le {high : UInt8} {n : Nat} (h : n < 256) :
    UInt8.ofNat n ≤ high ↔ n ≤ high.toNat := by
  rw [UInt8.le_iff_toNat_le, toNat_ofNat h]

/-! ### Bytes of a character -/

/-- What the decoder wants after a first byte: how many bytes, the range of the next one, and what
the first byte adds to the code. The range is narrower after four of the first bytes, which could
else begin a longer form, a surrogate, or a code beyond the last one. -/
def lead (n : Nat) : Nat × UInt8 × UInt8 × Nat :=
  if n < 0xE0 then (1, 0x80, 0xBF, n - 0xC0)
  else if n < 0xF0 then
    (2, if n = 0xE0 then 0xA0 else 0x80, if n = 0xED then 0x9F else 0xBF, n - 0xE0)
  else (3, if n = 0xF0 then 0x90 else 0x80, if n = 0xF4 then 0x8F else 0xBF, n - 0xF0)

theorem lead_of_two {k : Nat} (hk : k < 0x20) : lead (k + 0xC0) = (1, 0x80, 0xBF, k) := by
  unfold lead
  rw [if_pos (by omega), Nat.add_sub_cancel]

theorem lead_of_three {k : Nat} (hk : k < 0x10) :
    lead (k + 0xE0) = (2, if k = 0 then 0xA0 else 0x80, if k = 13 then 0x9F else 0xBF, k) := by
  unfold lead
  rw [if_neg (by omega), if_pos (by omega), Nat.add_sub_cancel]
  simp

theorem lead_of_four {k : Nat} :
    lead (k + 0xF0) = (3, if k = 0 then 0x90 else 0x80, if k = 4 then 0x8F else 0xBF, k) := by
  unfold lead
  rw [if_neg (by omega), if_neg (by omega), Nat.add_sub_cancel]
  simp

theorem start_ascii {n : Nat} (h : n < 0x80) :
    start (UInt8.ofNat n) = (.idle, [some (Char.ofNat n)]) := by
  have hlt : UInt8.ofNat n < 0x80 := by
    rw [UInt8.lt_iff_toNat_lt, toNat_ofNat (by omega)]
    exact h
  unfold start
  rw [if_pos hlt, toNat_ofNat (by omega)]

theorem start_lead {n : Nat} (hlow : 0xC2 ≤ n) (hhigh : n ≤ 0xF4) :
    start (UInt8.ofNat n) =
      (.inside (lead n).1 (lead n).2.1 (lead n).2.2.1 (lead n).2.2.2, []) := by
  -- There are few enough first bytes to go through all of them.
  have hall : ∀ k ∈ List.range' 0xC2 51,
      start (UInt8.ofNat k) =
        (.inside (lead k).1 (lead k).2.1 (lead k).2.2.1 (lead k).2.2.2, []) := by
    decide
  exact hall n (List.mem_range'_1.mpr ⟨hlow, by omega⟩)

/-- A byte in the range that is wanted, with more to come. -/
theorem feed_tail {need code n : Nat} {low high : UInt8} (hn : n < 256) (hlow : low.toNat ≤ n)
    (hhigh : n ≤ high.toNat) :
    feed (.inside (need + 2) low high code) (UInt8.ofNat n) =
      (.inside (need + 1) 0x80 0xBF (code * 64 + (n - 0x80)), []) := by
  have hin : low ≤ UInt8.ofNat n ∧ UInt8.ofNat n ≤ high :=
    ⟨(le_ofNat hn).mpr hlow, (ofNat_le hn).mpr hhigh⟩
  unfold feed
  dsimp only
  rw [if_pos hin, if_neg (by omega), toNat_ofNat hn]
  rfl

/-- The last byte of a character. -/
theorem feed_last {code n : Nat} {low high : UInt8} (hn : n < 256) (hlow : low.toNat ≤ n)
    (hhigh : n ≤ high.toNat) :
    feed (.inside 1 low high code) (UInt8.ofNat n) =
      (.idle, [some (Char.ofNat (code * 64 + (n - 0x80)))]) := by
  have hin : low ≤ UInt8.ofNat n ∧ UInt8.ofNat n ≤ high :=
    ⟨(le_ofNat hn).mpr hlow, (ofNat_le hn).mpr hhigh⟩
  unfold feed
  dsimp only
  rw [if_pos hin, if_pos (Nat.le_refl 1), toNat_ofNat hn]

theorem run_cons (p : Pending) (acc : List (Option Char)) (b : UInt8) (rest : Octets) :
    run p acc (b :: rest) = run (feed p b).1 ((feed p b).2.reverse ++ acc) rest := rfl

theorem run_acc (p : Pending) (acc : List (Option Char)) (s : Octets) :
    run p acc s = acc.reverse ++ run p [] s := by
  induction s generalizing p acc with
  | nil => simp [run]
  | cons b rest ih =>
      rw [run_cons, run_cons, ih, ih _ ((feed p b).2.reverse ++ [])]
      simp

theorem run_nil_cons (p : Pending) (b : UInt8) (rest : Octets) :
    run p [] (b :: rest) = (feed p b).2 ++ run (feed p b).1 [] rest := by
  rw [run_cons, run_acc]
  simp

/-- A character with its first byte read: what its decoder wants. -/
theorem run_lead {n : Nat} (hlow : 0xC2 ≤ n) (hhigh : n ≤ 0xF4) (acc : List (Option Char))
    (rest : Octets) :
    run .idle acc (UInt8.ofNat n :: rest) =
      run (.inside (lead n).1 (lead n).2.1 (lead n).2.2.1 (lead n).2.2.2) acc rest := by
  rw [run_cons, show feed .idle (UInt8.ofNat n) = start (UInt8.ofNat n) from rfl,
    start_lead hlow hhigh]
  rfl

theorem run_tail {need code n : Nat} {low high : UInt8} (hn : n < 256) (hlow : low.toNat ≤ n)
    (hhigh : n ≤ high.toNat) (acc : List (Option Char)) (rest : Octets) :
    run (.inside (need + 2) low high code) acc (UInt8.ofNat n :: rest) =
      run (.inside (need + 1) 0x80 0xBF (code * 64 + (n - 0x80))) acc rest := by
  rw [run_cons, feed_tail hn hlow hhigh]
  rfl

theorem run_last {code n : Nat} {low high : UInt8} (hn : n < 256) (hlow : low.toNat ≤ n)
    (hhigh : n ≤ high.toNat) (acc : List (Option Char)) (rest : Octets) :
    run (.inside 1 low high code) acc (UInt8.ofNat n :: rest) =
      run .idle (some (Char.ofNat (code * 64 + (n - 0x80))) :: acc) rest := by
  rw [run_cons, feed_last hn hlow hhigh]
  rfl

/-- The code of a character is none of a surrogate, and at most the last one. -/
theorem toNat_valid (c : Char) :
    c.val.toNat < 0xD800 ∨ (0xDFFF < c.val.toNat ∧ c.val.toNat < 0x110000) :=
  c.valid

/-- Between two characters, the bytes of a character complete it.

One case for each length. The decoder adds up the digits that the encoder took apart; what is to be
shown besides is that each byte is in the range that the one before it leads to expect. -/
theorem run_encodeChar (acc : List (Option Char)) (c : Char) (rest : Octets) :
    run .idle acc (String.utf8EncodeChar c ++ rest) = run .idle (some c :: acc) rest := by
  have hvalid := toNat_valid c
  have hc : ∀ n, n = c.val.toNat → Char.ofNat n = c := by
    rintro n rfl
    exact Char.ofNat_toNat c
  fun_cases String.utf8EncodeChar c with
  | case1 v h =>
      have hfeed : feed .idle (UInt8.ofNat v) = _ := start_ascii (by omega)
      rw [List.cons_append, run_cons, hfeed, hc v rfl]
      rfl
  | case2 v h1 h2 =>
      simp only [List.cons_append, List.nil_append]
      rw [run_lead (by omega) (by omega), lead_of_two (by omega)]
      dsimp only
      rw [run_last (by omega) (by simp) (by simp; omega), hc _ (by omega)]
  | case3 v h1 h2 h3 =>
      simp only [List.cons_append, List.nil_append]
      rw [run_lead (by omega) (by omega), lead_of_three (by omega)]
      dsimp only
      -- No shorter form, and no surrogate: the second byte is where the first one wants it.
      rw [run_tail (by omega) (by split <;> simp; omega) (by split <;> simp <;> omega),
        run_last (by omega) (by simp) (by simp; omega), hc _ (by omega)]
  | case4 v h1 h2 h3 =>
      simp only [List.cons_append, List.nil_append]
      rw [run_lead (by omega) (by omega), lead_of_four]
      dsimp only
      rw [run_tail (by omega) (by split <;> simp; omega) (by split <;> simp <;> omega),
        run_tail (by omega) (by simp) (by simp; omega),
        run_last (by omega) (by simp) (by simp; omega), hc _ (by omega)]

/-! ### Texts -/

@[simp] theorem encodeChars_nil : encodeChars [] = [] := rfl

@[simp] theorem encodeChars_cons (c : Char) (cs : List Char) :
    encodeChars (c :: cs) = String.utf8EncodeChar c ++ encodeChars cs :=
  List.flatMap_cons

@[simp] theorem encodeChars_append (cs ds : List Char) :
    encodeChars (cs ++ ds) = encodeChars cs ++ encodeChars ds :=
  List.flatMap_append

@[simp] theorem encode_ofList (cs : List Char) : encode (String.ofList cs) = encodeChars cs := by
  unfold encode
  rw [String.toList_ofList]

@[simp] theorem encode_append (s t : String) : encode (s ++ t) = encode s ++ encode t := by
  unfold encode
  rw [String.toList_append, encodeChars_append]

@[simp] theorem encode_push (s : String) (c : Char) :
    encode (s.push c) = encode s ++ String.utf8EncodeChar c := by
  unfold encode
  rw [String.toList_push, encodeChars_append, encodeChars_cons, encodeChars_nil, List.append_nil]

theorem run_encodeChars (acc : List (Option Char)) (cs : List Char) :
    run .idle acc (encodeChars cs) = acc.reverse ++ cs.map some := by
  induction cs generalizing acc with
  | nil => simp [run, finish]
  | cons c cs ih =>
      rw [encodeChars_cons, run_encodeChar, ih]
      simp

theorem wellFormed?_map_some (acc cs : List Char) :
    wellFormed? acc (cs.map some) = some (acc.reverse ++ cs) := by
  induction cs generalizing acc with
  | nil => simp [wellFormed?]
  | cons c cs ih =>
      rw [List.map_cons, wellFormed?, ih]
      simp

/-- The bytes of a text are read as that text. -/
theorem decode?_encode (s : String) : decode? (encode s) = some s := by
  unfold decode? decodeChars? pieces encode
  rw [run_encodeChars, List.reverse_nil, List.nil_append, wellFormed?_map_some, List.reverse_nil,
    List.nil_append, Option.map_some, String.ofList_toList]

theorem length_encodeChars (cs : List Char) :
    (encodeChars cs).length = (cs.map Char.utf8Size).sum := by
  simp [encodeChars, List.length_flatMap]

theorem utf8ByteSize_ofList (cs : List Char) :
    (String.ofList cs).utf8ByteSize = (cs.map Char.utf8Size).sum := by
  induction cs with
  | nil => rfl
  | cons c cs ih =>
      rw [String.ofList_cons, String.utf8ByteSize_append, String.utf8ByteSize_singleton, ih]
      rfl

theorem length_encode (s : String) : (encode s).length = s.utf8ByteSize := by
  have hsize := utf8ByteSize_ofList s.toList
  rw [String.ofList_toList] at hsize
  rw [hsize]
  exact length_encodeChars s.toList

/-! ### Zero bytes -/

theorem ofNat_ne_zero {n : Nat} (hpos : 0 < n) (hn : n < 256) : (0 : UInt8) ≠ UInt8.ofNat n := by
  intro h
  have hzero : (0 : UInt8).toNat = n := by rw [h, toNat_ofNat hn]
  have : (0 : UInt8).toNat = 0 := rfl
  omega

/-- Only the character of code zero has a zero byte: all bytes of longer encodings have their
highest bit set. -/
theorem zero_notMem_encodeChar {c : Char} (h : c ≠ '\x00') : 0 ∉ String.utf8EncodeChar c := by
  have hpos : c.val.toNat ≠ 0 := fun hzero => h (Char.ext (UInt32.toNat_inj.mp hzero))
  fun_cases String.utf8EncodeChar c with
  | case1 v h => simp [ofNat_ne_zero (n := v) (by omega) (by omega)]
  | case2 v h1 h2 =>
      simp only [List.mem_cons, List.not_mem_nil, or_false, not_or]
      exact ⟨ofNat_ne_zero (by omega) (by omega), ofNat_ne_zero (by omega) (by omega)⟩
  | case3 v h1 h2 h3 =>
      simp only [List.mem_cons, List.not_mem_nil, or_false, not_or]
      exact ⟨ofNat_ne_zero (by omega) (by omega), ofNat_ne_zero (by omega) (by omega),
        ofNat_ne_zero (by omega) (by omega)⟩
  | case4 v h1 h2 h3 =>
      simp only [List.mem_cons, List.not_mem_nil, or_false, not_or]
      exact ⟨ofNat_ne_zero (by omega) (by omega), ofNat_ne_zero (by omega) (by omega),
        ofNat_ne_zero (by omega) (by omega), ofNat_ne_zero (by omega) (by omega)⟩

/-- The text has no character of code zero. -/
def ZeroFree (s : String) : Prop :=
  '\x00' ∉ s.toList

theorem zero_notMem_encode {s : String} (h : ZeroFree s) : 0 ∉ encode s := by
  unfold encode encodeChars
  rw [List.mem_flatMap]
  rintro ⟨c, hc, hzero⟩
  exact zero_notMem_encodeChar (fun heq => h (heq ▸ hc)) hzero

/-! ### Order -/

theorem cons_ofNat_lt_iff {m n : Nat} (hm : m < 256) (hn : n < 256) {s t : Octets} :
    UInt8.ofNat m :: s < UInt8.ofNat n :: t ↔ m < n ∨ m = n ∧ s < t := by
  rw [List.cons_lt_cons_iff, UInt8.lt_iff_toNat_lt, ← UInt8.toNat_inj, toNat_ofNat hm,
    toNat_ofNat hn]

/-- A code is made of its digits to the base 64. -/
theorem eq_digits {n : Nat} (h : n < 0x200000) :
    n = n / 262144 % 8 * 262144 + n / 4096 % 64 * 4096 + n / 64 % 64 * 64 + n % 64 := by
  omega

/-- A character with a smaller code has smaller bytes, whatever comes behind them.

This needs all sixteen pairs of lengths. Of different lengths the first bytes differ already; of the
same length the first digit that differs decides. -/
theorem encodeChar_append_lt {c d : Char} (h : c < d) (s t : Octets) :
    String.utf8EncodeChar c ++ s < String.utf8EncodeChar d ++ t := by
  have hlt : c.val.toNat < d.val.toNat := UInt32.lt_iff_toNat_lt.mp h
  have hc := toNat_valid c
  have hd := toNat_valid d
  -- In each case the first digit that differs decides, or the lengths do.
  fun_cases String.utf8EncodeChar c with
  | case4 v h1 h2 h3 =>
      fun_cases String.utf8EncodeChar d with
      | case4 w g1 g2 g3 =>
          have hv := eq_digits (n := v) (by omega)
          have hw := eq_digits (n := w) (by omega)
          simp (disch := omega) only [List.cons_append, List.nil_append, cons_ofNat_lt_iff]
          omega
      | _ => omega
  | _ =>
      fun_cases String.utf8EncodeChar d with
      | _ =>
          simp (disch := omega) only [List.cons_append, List.nil_append, cons_ofNat_lt_iff]
          omega

theorem encodeChars_lt {cs ds : List Char} (h : cs < ds) : encodeChars cs < encodeChars ds := by
  induction cs generalizing ds with
  | nil =>
      cases ds with
      | nil => exact absurd h (List.lt_irrefl [])
      | cons d ds =>
          have hne : String.utf8EncodeChar d ≠ [] := String.utf8EncodeChar_ne_nil
          obtain ⟨b, bytes, hbytes⟩ := List.exists_cons_of_ne_nil hne
          rw [encodeChars_nil, encodeChars_cons, hbytes]
          exact List.nil_lt_cons b _
  | cons c cs ih =>
      cases ds with
      | nil => exact absurd h (List.not_lt_nil _)
      | cons d ds =>
          rw [encodeChars_cons, encodeChars_cons]
          rcases List.cons_lt_cons_iff.mp h with hlt | ⟨rfl, hlt⟩
          · exact encodeChar_append_lt hlt _ _
          · exact List.append_left_lt (ih hlt)

/-- The bytes of texts are in the order of the texts. -/
theorem encode_lt_encode {s t : String} (h : s < t) : encode s < encode t :=
  encodeChars_lt (String.lt_iff_toList_lt.mp h)

end Switchyard.Utf8
