import Switchyard.Proofs.Text.Utf8

/-!
# Switchyard.Proofs.Text.WellFormed

**A text is read from its own bytes alone** (`decode?_eq_some_iff`): where the decoder finds nothing
ill-formed, the bytes are those of the text it gives.

`Holds` names the bytes of the character in progress, one case for each length and each number of
bytes so far. A byte that is taken either completes the character, and then the bytes in progress
are its bytes together with the one taken, or goes on with it (`feed_holds`).

The other direction, that the bytes of a text are read as that text, is an evaluation of the
decoder. Here nothing is known of the bytes but that the decoder found nothing ill-formed, so the
proof needs an invariant of the decoder's state, and `Holds` is that.
-/

namespace Switchyard.Utf8

/-! ### Characters of well-formed bytes -/

theorem val_ofNat {n : Nat} (h : n < 0xD800 ∨ 0xDFFF < n ∧ n < 0x110000) :
    (Char.ofNat n).val.toNat = n := by
  have hvalid : n.isValidChar := h
  unfold Char.ofNat
  rw [dif_pos hvalid]
  rfl

theorem ofNat_eq {n : Nat} {b : UInt8} (h : n = b.toNat) : UInt8.ofNat n = b := by
  rw [h, UInt8.ofNat_toNat]

section Chars

variable {a b c d : UInt8}

theorem encodeChar_one (h : a.toNat < 0x80) :
    String.utf8EncodeChar (Char.ofNat a.toNat) = [a] := by
  have hv := val_ofNat (n := a.toNat) (by omega)
  unfold String.utf8EncodeChar
  simp only [hv]
  rw [if_pos (by omega), UInt8.ofNat_toNat]

theorem encodeChar_two (h : 0xC2 ≤ a.toNat ∧ a.toNat ≤ 0xDF)
    (hb : 0x80 ≤ b.toNat ∧ b.toNat ≤ 0xBF) :
    String.utf8EncodeChar (Char.ofNat ((a.toNat - 0xC0) * 64 + (b.toNat - 0x80))) = [a, b] := by
  have hv := val_ofNat (n := (a.toNat - 0xC0) * 64 + (b.toNat - 0x80)) (by omega)
  unfold String.utf8EncodeChar
  simp only [hv]
  rw [if_neg (by omega), if_pos (by omega), ofNat_eq (b := a) (by omega),
    ofNat_eq (b := b) (by omega)]

theorem encodeChar_three (h : 0xE0 ≤ a.toNat ∧ a.toNat ≤ 0xEF)
    (hb : 0x80 ≤ b.toNat ∧ b.toNat ≤ 0xBF)
    (hshort : a.toNat = 0xE0 → 0xA0 ≤ b.toNat) (hhalf : a.toNat = 0xED → b.toNat ≤ 0x9F)
    (hc : 0x80 ≤ c.toNat ∧ c.toNat ≤ 0xBF) :
    String.utf8EncodeChar (Char.ofNat
      (((a.toNat - 0xE0) * 64 + (b.toNat - 0x80)) * 64 + (c.toNat - 0x80))) = [a, b, c] := by
  have hv := val_ofNat (n := ((a.toNat - 0xE0) * 64 + (b.toNat - 0x80)) * 64 + (c.toNat - 0x80))
    (by omega)
  unfold String.utf8EncodeChar
  simp only [hv]
  rw [if_neg (by omega), if_neg (by omega), if_pos (by omega), ofNat_eq (b := a) (by omega),
    ofNat_eq (b := b) (by omega), ofNat_eq (b := c) (by omega)]

theorem encodeChar_four (h : 0xF0 ≤ a.toNat ∧ a.toNat ≤ 0xF4)
    (hb : 0x80 ≤ b.toNat ∧ b.toNat ≤ 0xBF)
    (hshort : a.toNat = 0xF0 → 0x90 ≤ b.toNat) (hlast : a.toNat = 0xF4 → b.toNat ≤ 0x8F)
    (hc : 0x80 ≤ c.toNat ∧ c.toNat ≤ 0xBF) (hd : 0x80 ≤ d.toNat ∧ d.toNat ≤ 0xBF) :
    String.utf8EncodeChar (Char.ofNat
      ((((a.toNat - 0xF0) * 64 + (b.toNat - 0x80)) * 64 + (c.toNat - 0x80)) * 64 +
        (d.toNat - 0x80))) = [a, b, c, d] := by
  have hv := val_ofNat (n := (((a.toNat - 0xF0) * 64 + (b.toNat - 0x80)) * 64 +
    (c.toNat - 0x80)) * 64 + (d.toNat - 0x80)) (by omega)
  unfold String.utf8EncodeChar
  simp only [hv]
  rw [if_neg (by omega), if_neg (by omega), if_neg (by omega), ofNat_eq (b := a) (by omega),
    ofNat_eq (b := b) (by omega), ofNat_eq (b := c) (by omega), ofNat_eq (b := d) (by omega)]

end Chars

/-! ### Steps of the decoder -/

/-- The bytes of the character in progress: what they are, given what the decoder wants next and the
code so far. -/
inductive Holds : Pending → Octets → Prop
  | idle : Holds .idle []
  | two {code : Nat} {a : UInt8} (hcode : code = a.toNat - 0xC0)
      (h : 0xC2 ≤ a.toNat ∧ a.toNat ≤ 0xDF) : Holds (.inside 1 0x80 0xBF code) [a]
  | three {code : Nat} {a low high : UInt8} (hcode : code = a.toNat - 0xE0)
      (h : 0xE0 ≤ a.toNat ∧ a.toNat ≤ 0xEF) (hlow : 0x80 ≤ low.toNat) (hhigh : high.toNat ≤ 0xBF)
      (hshort : a.toNat = 0xE0 → 0xA0 ≤ low.toNat) (hhalf : a.toNat = 0xED → high.toNat ≤ 0x9F) :
      Holds (.inside 2 low high code) [a]
  | threeMore {a b : UInt8} (h : 0xE0 ≤ a.toNat ∧ a.toNat ≤ 0xEF)
      (hb : 0x80 ≤ b.toNat ∧ b.toNat ≤ 0xBF)
      (hshort : a.toNat = 0xE0 → 0xA0 ≤ b.toNat) (hhalf : a.toNat = 0xED → b.toNat ≤ 0x9F) :
      Holds (.inside 1 0x80 0xBF ((a.toNat - 0xE0) * 64 + (b.toNat - 0x80))) [a, b]
  | four {code : Nat} {a low high : UInt8} (hcode : code = a.toNat - 0xF0)
      (h : 0xF0 ≤ a.toNat ∧ a.toNat ≤ 0xF4) (hlow : 0x80 ≤ low.toNat) (hhigh : high.toNat ≤ 0xBF)
      (hshort : a.toNat = 0xF0 → 0x90 ≤ low.toNat) (hlast : a.toNat = 0xF4 → high.toNat ≤ 0x8F) :
      Holds (.inside 3 low high code) [a]
  | fourMore {a b : UInt8} (h : 0xF0 ≤ a.toNat ∧ a.toNat ≤ 0xF4)
      (hb : 0x80 ≤ b.toNat ∧ b.toNat ≤ 0xBF)
      (hshort : a.toNat = 0xF0 → 0x90 ≤ b.toNat) (hlast : a.toNat = 0xF4 → b.toNat ≤ 0x8F) :
      Holds (.inside 2 0x80 0xBF ((a.toNat - 0xF0) * 64 + (b.toNat - 0x80))) [a, b]
  | fourLast {a b c : UInt8} (h : 0xF0 ≤ a.toNat ∧ a.toNat ≤ 0xF4)
      (hb : 0x80 ≤ b.toNat ∧ b.toNat ≤ 0xBF)
      (hshort : a.toNat = 0xF0 → 0x90 ≤ b.toNat) (hlast : a.toNat = 0xF4 → b.toNat ≤ 0x8F)
      (hc : 0x80 ≤ c.toNat ∧ c.toNat ≤ 0xBF) :
      Holds (.inside 1 0x80 0xBF
        (((a.toNat - 0xF0) * 64 + (b.toNat - 0x80)) * 64 + (c.toNat - 0x80))) [a, b, c]

/-- What a first byte completes, unless it is ill-formed, and what it begins. The cases are the
ranges of first bytes that the decoder tells apart. -/
theorem start_holds {b : UInt8} {cs : List Char} (hcs : (start b).2 = cs.map some) :
    ∃ bytes, Holds (start b).1 bytes ∧ [b] = encodeChars cs ++ bytes := by
  revert hcs
  fun_cases start b with
  | case1 h =>
      intro hcs
      have hlt := UInt8.lt_iff_toNat_lt.mp h
      obtain ⟨c, rfl, hc⟩ : ∃ c, cs = [c] ∧ c = Char.ofNat b.toNat := by
        simpa [eq_comm, List.map_eq_singleton_iff] using hcs
      refine ⟨[], .idle, ?_⟩
      rw [encodeChars_cons, hc, encodeChar_one hlt]
      rfl
  | case9 =>
      intro hcs
      cases cs <;> cases hcs
  | case2 _ h =>
      intro hcs
      obtain rfl : cs = [] := by simpa using hcs.symm
      have hlow := UInt8.le_iff_toNat_le.mp h.1
      have hhigh := UInt8.le_iff_toNat_le.mp h.2
      exact ⟨[b], .two rfl ⟨hlow, hhigh⟩, rfl⟩
  | case3 =>
      intro hcs
      obtain rfl : cs = [] := by simpa using hcs.symm
      subst_vars
      exact ⟨[0xE0], .three rfl (by decide) (by decide) (by decide) (by decide) (by decide), rfl⟩
  | case4 =>
      intro hcs
      obtain rfl : cs = [] := by simpa using hcs.symm
      subst_vars
      exact ⟨[0xED], .three rfl (by decide) (by decide) (by decide) (by decide) (by decide), rfl⟩
  | case5 _ _ hfirst hhalf h =>
      intro hcs
      obtain rfl : cs = [] := by simpa using hcs.symm
      have hlow := UInt8.le_iff_toNat_le.mp h.1
      have hhigh := UInt8.le_iff_toNat_le.mp h.2
      refine ⟨[b], .three rfl ⟨Nat.le_of_succ_le hlow, hhigh⟩ (by decide) (by decide) ?_ ?_, rfl⟩
      · exact fun heq => absurd (UInt8.toNat_inj.mp heq) hfirst
      · exact fun heq => absurd (UInt8.toNat_inj.mp heq) hhalf
  | case6 =>
      intro hcs
      obtain rfl : cs = [] := by simpa using hcs.symm
      subst_vars
      exact ⟨[0xF0], .four rfl (by decide) (by decide) (by decide) (by decide) (by decide), rfl⟩
  | case7 _ _ _ _ _ hfirst h =>
      intro hcs
      obtain rfl : cs = [] := by simpa using hcs.symm
      have hlow := UInt8.le_iff_toNat_le.mp h.1
      have hhigh := UInt8.le_iff_toNat_le.mp h.2
      simp only [UInt8.reduceToNat] at hlow hhigh
      refine ⟨[b], .four rfl ⟨by omega, by omega⟩ (by decide) (by decide) ?_ ?_, rfl⟩
      · exact fun heq => absurd (UInt8.toNat_inj.mp heq) hfirst
      · intro heq
        omega
  | case8 =>
      intro hcs
      obtain rfl : cs = [] := by simpa using hcs.symm
      subst_vars
      exact ⟨[0xF4], .four rfl (by decide) (by decide) (by decide) (by decide) (by decide), rfl⟩

set_option maxRecDepth 2000 in
/-- A byte completes a character, whose bytes those in progress are together with it, or goes on
with it.

The cases are those of the decoder: it is between two characters, it has the last byte of one, it
has a byte of the middle, or what is in progress is ill-formed, which the hypothesis excludes. -/
theorem feed_holds {p : Pending} {bytes : Octets} (h : Holds p bytes) {b : UInt8} {cs : List Char}
    (hcs : (feed p b).2 = cs.map some) :
    ∃ more, Holds (feed p b).1 more ∧ bytes ++ [b] = encodeChars cs ++ more := by
  revert hcs
  fun_cases feed p b with
  | case1 =>
      intro hcs
      cases h
      exact start_holds hcs
  | case4 need low high code hout p' out heq =>
      -- The character in progress is ill-formed.
      intro hcs
      cases cs <;> cases hcs
  | case2 need low high code hin code' hneed =>
      intro hcs
      have hlow := UInt8.le_iff_toNat_le.mp hin.1
      have hhigh := UInt8.le_iff_toNat_le.mp hin.2
      obtain ⟨c, rfl, hc⟩ : ∃ c, cs = [c] ∧ c = Char.ofNat code' := by
        simpa [eq_comm, List.map_eq_singleton_iff] using hcs
      refine ⟨[], .idle, ?_⟩
      rw [encodeChars_cons, hc, encodeChars_nil, List.append_nil, List.append_nil]
      cases h with
      | two hcode h =>
          subst hcode
          exact (encodeChar_two h ⟨hlow, hhigh⟩).symm
      | threeMore h hb hshort hhalf =>
          exact (encodeChar_three h hb hshort hhalf ⟨hlow, hhigh⟩).symm
      | fourLast h hb hshort hlast hmid =>
          exact (encodeChar_four h hb hshort hlast hmid ⟨hlow, hhigh⟩).symm
      | three | four | fourMore => omega
  | case3 need low high code hin code' hneed =>
      intro hcs
      have hlow := UInt8.le_iff_toNat_le.mp hin.1
      have hhigh := UInt8.le_iff_toNat_le.mp hin.2
      obtain rfl : cs = [] := by simpa using hcs.symm
      refine ⟨bytes ++ [b], ?_, rfl⟩
      cases h with
      | three hcode h hl hh hshort hhalf =>
          subst hcode
          refine .threeMore h ⟨by omega, by omega⟩ ?_ ?_
          · exact fun heq => Nat.le_trans (hshort heq) hlow
          · exact fun heq => Nat.le_trans hhigh (hhalf heq)
      | four hcode h hl hh hshort hlast =>
          subst hcode
          refine .fourMore h ⟨by omega, by omega⟩ ?_ ?_
          · exact fun heq => Nat.le_trans (hshort heq) hlow
          · exact fun heq => Nat.le_trans hhigh (hlast heq)
      | fourMore h hb hshort hlast => exact .fourLast h hb hshort hlast ⟨hlow, hhigh⟩
      | two | threeMore | fourLast => omega

/-- Step by step: the bytes in progress, with those still to come, are the bytes of the characters
that are read. -/
theorem run_holds {p : Pending} {bytes : Octets} (h : Holds p bytes) {s : Octets}
    {cs : List Char} (hcs : run p [] s = cs.map some) : bytes ++ s = encodeChars cs := by
  induction s generalizing p bytes cs with
  | nil =>
      cases h with
      | idle =>
          obtain rfl : cs = [] := by simpa [run, finish] using hcs.symm
          rfl
      | _ => cases cs <;> cases hcs
  | cons b rest ih =>
      rw [run_nil_cons] at hcs
      obtain ⟨first, later, rfl, hfirst, hlater⟩ := List.append_eq_map_iff.mp hcs
      obtain ⟨more, hmore, heq⟩ := feed_holds h hfirst.symm
      rw [List.append_cons, heq, List.append_assoc, ih hmore hlater.symm, encodeChars_append]

theorem wellFormed?_eq_some {acc cs : List Char} {ps : List (Option Char)}
    (h : wellFormed? acc ps = some cs) : ∃ more, ps = more.map some ∧ cs = acc.reverse ++ more := by
  induction ps generalizing acc with
  | nil =>
      cases h
      exact ⟨[], rfl, (List.append_nil _).symm⟩
  | cons p ps ih =>
      cases p with
      | none => cases h
      | some c =>
          obtain ⟨more, rfl, rfl⟩ := ih h
          exact ⟨c :: more, rfl, by simp⟩

/-- **A text is read from its own bytes alone**: each text has one spelling in bytes, and nothing
else is read as it. -/
theorem decode?_eq_some_iff {s : Octets} {t : String} : decode? s = some t ↔ s = encode t := by
  constructor
  · intro h
    obtain ⟨cs, hcs, rfl⟩ := Option.map_eq_some_iff.mp h
    obtain ⟨more, hpieces, rfl⟩ := wellFormed?_eq_some hcs
    rw [encode_ofList]
    exact run_holds .idle hpieces
  · rintro rfl
    exact decode?_encode t

end Switchyard.Utf8
