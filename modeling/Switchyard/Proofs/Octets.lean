import Mathlib.Algebra.Ring.Nat
import Switchyard.Octets

/-!
# Switchyard.Proofs.Octets

**A number is read back from its bytes**, up to what its width can hold: `ofBigEndian_bigEndian`;
bytes are read back from the number that they spell (`littleEndian_ofLittleEndian`). Taking as many
bytes as were put in front gives them back (`splitExact?_append`), and a prefix can be taken exactly
when it is there (`splitExact?_eq_some_iff`). A cut through encodings that stand in a row goes
through one of them (`exists_cut`).

All multi-byte numbers of both protocols are read and written by these functions, which differ in
the order of the bytes only. A number that is too large for its width is cut by the writer and not
refused, so what comes back is its remainder.
-/

namespace Switchyard.Octets

/-! ### Fixed-width numbers -/

@[simp] theorem length_littleEndian (width n : Nat) : (littleEndian width n).length = width := by
  induction width generalizing n with
  | zero => rfl
  | succ width ih => rw [littleEndian, List.length_cons, ih]

@[simp] theorem length_bigEndian (width n : Nat) : (bigEndian width n).length = width := by
  rw [bigEndian, List.length_reverse, length_littleEndian]

theorem ofLittleEndian_littleEndian (width n : Nat) :
    ofLittleEndian (littleEndian width n) = n % 256 ^ width := by
  induction width generalizing n with
  | zero => rw [Nat.pow_zero, Nat.mod_one]; rfl
  | succ width ih =>
      have hsplit : n % 256 ^ (width + 1) = n % 256 + 256 * (n / 256 % 256 ^ width) := by
        rw [Nat.pow_succ', Nat.mod_mul]
      rw [littleEndian, ofLittleEndian, ih, hsplit, UInt8.toNat_ofNat']

/-- Bytes come back from the number that they spell. -/
theorem littleEndian_ofLittleEndian (s : Octets) : littleEndian s.length (ofLittleEndian s) = s := by
  induction s with
  | nil => rfl
  | cons b s ih =>
      have hlow : UInt8.ofNat (b.toNat + 256 * ofLittleEndian s) = b := by
        rw [← UInt8.toNat_inj, UInt8.toNat_ofNat', Nat.add_mul_mod_self_left]
        exact Nat.mod_eq_of_lt b.toNat_lt
      have hhigh : (b.toNat + 256 * ofLittleEndian s) / 256 = ofLittleEndian s := by
        have hb := b.toNat_lt
        omega
      rw [ofLittleEndian, List.length_cons, littleEndian, hlow, hhigh, ih]

/-- Bytes spell a number that fits their width. -/
theorem ofLittleEndian_lt (s : Octets) : ofLittleEndian s < 256 ^ s.length := by
  have hreduced := ofLittleEndian_littleEndian s.length (ofLittleEndian s)
  rw [littleEndian_ofLittleEndian] at hreduced
  rw [hreduced]
  exact Nat.mod_lt _ (Nat.pow_pos (by decide))

/-- The two orders differ by a reversal only. -/
theorem ofBigEndian_reverse (s : Octets) : ofBigEndian s.reverse = ofLittleEndian s := by
  unfold ofBigEndian
  rw [List.foldl_reverse]
  induction s with
  | nil => rfl
  | cons b s ih =>
      rw [List.foldr_cons, ih, ofLittleEndian]
      omega

/-- A number comes back from its bytes, reduced to their width. -/
theorem ofBigEndian_bigEndian (width n : Nat) :
    ofBigEndian (bigEndian width n) = n % 256 ^ width := by
  rw [bigEndian, ofBigEndian_reverse, ofLittleEndian_littleEndian]

/-! ### Prefixes -/

theorem splitExact?_eq_some_iff {n : Nat} {s head rest : Octets} :
    splitExact? n s = some (head, rest) ↔ s = head ++ rest ∧ head.length = n := by
  have hunfold : splitExact? n s =
      if (s.take n).length = n then some (s.take n, s.drop n) else none := rfl
  rw [hunfold]
  constructor
  · intro h
    split at h
    · rename_i hlength
      injection h with h
      injection h with hhead hrest
      rw [← hhead, ← hrest, List.take_append_drop]
      exact ⟨rfl, hlength⟩
    · exact absurd h (by simp)
  · rintro ⟨rfl, rfl⟩
    rw [List.take_left, List.drop_left, if_pos rfl]

@[simp] theorem splitExact?_append (head rest : Octets) :
    splitExact? head.length (head ++ rest) = some (head, rest) :=
  splitExact?_eq_some_iff.mpr ⟨rfl, rfl⟩

/-! ### Cuts -/

/-- A cut through encodings in a row, before their end: some of them are whole, and the next one is
cut before its own end. It may be cut at its beginning, so that nothing of it is there. By induction
on the encoded things. -/
theorem exists_cut {α : Type} (encode : α → Octets) (xs : List α) {k : Nat}
    (hk : k < (xs.flatMap encode).length) :
    ∃ done x more j, xs = done ++ x :: more ∧ k = (done.flatMap encode).length + j ∧
      j < (encode x).length ∧
      (xs.flatMap encode).take k = done.flatMap encode ++ (encode x).take j := by
  induction xs generalizing k with
  | nil => exact absurd hk (Nat.not_lt_zero k)
  | cons x xs ih =>
      rw [List.flatMap_cons, List.length_append] at hk
      by_cases hlt : k < (encode x).length
      · refine ⟨[], x, xs, k, rfl, (Nat.zero_add k).symm, hlt, ?_⟩
        rw [List.flatMap_cons, List.take_append_of_le_length (Nat.le_of_lt hlt)]
        rfl
      · obtain ⟨done, y, more, j, hxs, hlength, hj, htake⟩ :=
          ih (k := k - (encode x).length) (by omega)
        refine ⟨x :: done, y, more, j, by rw [hxs, List.cons_append], ?_, hj, ?_⟩
        · rw [List.flatMap_cons, List.length_append]
          omega
        · rw [List.flatMap_cons, List.take_append, htake,
            List.take_of_length_le (Nat.not_lt.mp hlt), List.flatMap_cons, List.append_assoc]

end Switchyard.Octets
