import Switchyard.Stream.Source

/-!
# Switchyard.Proofs.Stream.Source

What a source carries, apart from how it is cut: `bytesOf`. A source is `Steady` if its pieces are
not empty, since an empty one reads as the end, and if it fails only in ways that its reader waits
out; which these are is up to the reader.

`readFull` waits out interruptions. A source that only interrupts it (`Delivers`) fills a buffer
with the first of its bytes and leaves the others, however they are cut (`readFull_of_delivers`).

The reader is a recursion on the pieces of the source, and the lemmas about it follow that
recursion: one step for a piece that is longer than what is left of the buffer, one for a shorter
one, one for a failure.
-/

namespace Switchyard.Stream

variable {waits : IoError → Prop} {left : Octets} {arrival : Arrival} {rest : Source} {e : IoError}

/-- All bytes of a source. -/
def bytesOf : Source → Octets
  | [] => []
  | .bytes s :: rest => s ++ bytesOf rest
  | .failure _ :: rest => bytesOf rest

@[simp] theorem bytesOf_nil : bytesOf [] = [] := rfl

@[simp] theorem bytesOf_bytes (s : Octets) (rest : Source) :
    bytesOf (.bytes s :: rest) = s ++ bytesOf rest := rfl

@[simp] theorem bytesOf_failure (e : IoError) (rest : Source) :
    bytesOf (.failure e :: rest) = bytesOf rest := rfl

theorem pendingBytes_eq (source : Source) : pendingBytes source = (bytesOf source).length := by
  induction source with
  | nil => rfl
  | cons arrival rest ih =>
      cases arrival with
      | bytes s => rw [pendingBytes, ih, bytesOf_bytes, List.length_append]
      | failure e => rw [pendingBytes, ih, bytesOf_failure]

/-- An arrival that does not end a reader that waits out these failures. -/
def Arrival.Steady (waits : IoError → Prop) : Arrival → Prop
  | .bytes s => s ≠ []
  | .failure e => waits e

/-- A source that goes on to its end. -/
def Steady (waits : IoError → Prop) (source : Source) : Prop :=
  ∀ arrival ∈ source, arrival.Steady waits

theorem steady_cons_iff :
    Steady waits (arrival :: rest) ↔ arrival.Steady waits ∧ Steady waits rest :=
  List.forall_mem_cons

/-! ### What is left of a piece -/

/-- A reader that takes a part of a piece leaves a source with the other part in front. -/
theorem bytesOf_putBack : bytesOf (if left.isEmpty then rest else .bytes left :: rest) =
    left ++ bytesOf rest := by
  cases left <;> rfl

theorem steady_putBack (h : Steady waits rest) :
    Steady waits (if left.isEmpty then rest else .bytes left :: rest) := by
  cases left with
  | nil => exact h
  | cons b left => exact steady_cons_iff.mpr ⟨List.cons_ne_nil _ _, h⟩

theorem length_putBack_le : (if left.isEmpty then rest else .bytes left :: rest).length ≤
    rest.length + 1 := by
  cases left <;> simp

/-! ### Filling a buffer -/

/-- A source of these bytes, in any pieces, that interrupts its reader now and then. This is what
most results ask of a source: it says nothing of how the bytes are cut. -/
structure Delivers (bytes : Octets) (source : Source) : Prop where
  steady : Steady (· = .interrupted) source
  bytes : bytesOf source = bytes

theorem Delivers.tail {bytes : Octets} (h : Delivers bytes (.failure e :: rest)) :
    Delivers bytes rest :=
  ⟨(steady_cons_iff.mp h.steady).2, h.bytes⟩

theorem readFull_zero (source : Source) : readFull 0 source = .ok ([], source) := by
  cases source <;> rfl

/-- A piece that is longer than the buffer. -/
theorem readFull_of_le {n : Nat} {s : Octets} (hn : n ≠ 0) (h : n ≤ s.length) (rest : Source) :
    readFull n (.bytes s :: rest) =
      .ok (s.take n, if (s.drop n).isEmpty then rest else .bytes (s.drop n) :: rest) := by
  have hlength : (s.take n).length = n := List.length_take_of_le h
  have hne : (s.take n).isEmpty = false := by
    rw [List.isEmpty_eq_false_iff, ← List.length_pos_iff, hlength]
    exact Nat.pos_of_ne_zero hn
  rw [readFull, if_neg hn]
  simp only [hne, hlength, Nat.lt_irrefl, if_false, Bool.false_eq_true]

/-- A piece that is shorter than the buffer is all taken. -/
theorem readFull_of_lt {n : Nat} {s more : Octets} {rest' : Source} (hs : s ≠ [])
    (h : s.length < n) (hrest : readFull (n - s.length) rest = .ok (more, rest')) :
    readFull n (.bytes s :: rest) = .ok (s ++ more, rest') := by
  have htake : s.take n = s := List.take_of_length_le (Nat.le_of_lt h)
  have hne : s.isEmpty = false := List.isEmpty_eq_false_iff.mpr hs
  rw [readFull, if_neg (by omega)]
  simp only [htake, hne, h, hrest, if_true, if_false, Bool.false_eq_true]

/-- A buffer is filled with the first bytes of a source, and the others are left.

By induction on the pieces, for any size of the buffer, since a piece that is used up leaves a
smaller one to be filled. A buffer of no bytes reads nothing, not even a failure, and is set apart.
-/
theorem readFull_of_delivers {source : Source} {bytes : Octets} (h : Delivers bytes source)
    (n : Nat) :
    ∃ rest, readFull n source = .ok (bytes.take n, rest) ∧ Delivers (bytes.drop n) rest := by
  by_cases hzero : n = 0
  · subst hzero
    exact ⟨source, readFull_zero source, h⟩
  induction source generalizing n bytes with
  | nil =>
      obtain rfl : [] = bytes := h.bytes
      exact ⟨[], by rw [List.take_nil]; rfl, by rw [List.drop_nil]; exact h⟩
  | cons arrival rest ih =>
      obtain ⟨harrival, hrest⟩ := steady_cons_iff.mp h.steady
      cases arrival with
      | failure e =>
          obtain rfl : e = .interrupted := harrival
          obtain ⟨rest', hread, hleft⟩ := ih h.tail n hzero
          exact ⟨rest', by rw [readFull, if_neg hzero, hread], hleft⟩
      | bytes s =>
          obtain rfl : s ++ bytesOf rest = bytes := h.bytes
          by_cases hle : n ≤ s.length
          · refine ⟨if (s.drop n).isEmpty then rest else .bytes (s.drop n) :: rest, ?_,
              steady_putBack hrest, ?_⟩
            -- The piece has enough: what it has too much goes back in front of the source.
            · rw [readFull_of_le hzero hle, List.take_append_of_le_length hle]
            · rw [bytesOf_putBack, List.drop_append_of_le_length hle]
          · have hlt : s.length < n := Nat.not_le.mp hle
            obtain ⟨rest', hread, hleft⟩ := ih ⟨hrest, rfl⟩ (n - s.length) (by omega)
            refine ⟨rest', ?_, ?_⟩
            · rw [readFull_of_lt harrival hlt hread, List.take_append,
                List.take_of_length_le (Nat.le_of_lt hlt)]
            · rwa [List.drop_append, List.drop_of_length_le (Nat.le_of_lt hlt), List.nil_append]

/-- Whatever a source does, the bytes in the buffer come from its front and the others are left. -/
theorem append_of_readFull {n : Nat} {source rest : Source} {got : Octets}
    (h : readFull n source = .ok (got, rest)) : got ++ bytesOf rest = bytesOf source := by
  fun_induction readFull n source generalizing got rest with
  | case1 => cases h; rfl
  | case2 => cases h; rfl
  | case3 n more hn ih => exact ih h
  | case4 => cases h
  | case5 n pieces hn s taken =>
      rename_i hempty
      -- Where nothing is taken of a piece, there was nothing in it.
      cases h
      obtain rfl : s = [] := (List.take_eq_nil_iff.mp (List.isEmpty_iff.mp hempty)).resolve_left hn
      rfl
  | case6 n pieces hn s taken =>
      rename_i hlt more rest' hmore ih
      cases h
      have hwhole : taken = s := List.take_of_length_le (by
        rw [List.length_take] at hlt
        omega)
      rw [List.append_assoc, ih hmore, bytesOf_bytes, hwhole]
  | case7 => cases h
  | case8 n pieces hn s =>
      cases h
      rw [bytesOf_putBack, ← List.append_assoc, List.take_append_drop, bytesOf_bytes]

end Switchyard.Stream
