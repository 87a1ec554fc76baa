import Switchyard.Proofs.Text.Utf8

/-!
# Switchyard.Proofs.Text.Lines

**Decoding goes line by line.** Bytes that are decoded, ill-formed parts replaced, and then cut at
line feeds give the same texts as the bytes of each line decoded on their own
(`linesAt_lossyChars`). No character goes on over a line feed: a byte below `0x80` ends what is
unfinished (`run_newline`), and no other byte completes a line feed (`newline_notMem_run`).

`linesAt` cuts a list at an element. What is said of its pieces is proved piece by piece, from the
first separator on (`cut_induction`).
-/

namespace Switchyard

/-! ### Cutting at a separator -/

section Cutting

variable {α β : Type} [DecidableEq α] [DecidableEq β] {a : α} {xs ys : List α}

/-- Pieces without the last one, if that is empty. -/
def dropEmptyLast (pieces : List (List α)) : List (List α) :=
  if pieces.getLast? = some [] then pieces.dropLast else pieces

/-- The pieces of a list between separators; nothing after the last separator is no piece. -/
def linesAt (a : α) (xs : List α) : List (List α) :=
  dropEmptyLast (xs.splitOn a)

/-- A list has no separator, or a piece before the first one and a rest after it. Induction along
this cut goes from one separator to the next, as a reader of lines does. -/
theorem cut_induction {motive : List α → Prop} (a : α) (last : ∀ xs, a ∉ xs → motive xs)
    (cut : ∀ xs ys, a ∉ xs → motive ys → motive (xs ++ a :: ys)) (xs : List α) : motive xs := by
  by_cases hmem : a ∈ xs
  · obtain ⟨before, after, heq, hbefore⟩ := List.eq_append_cons_of_mem hmem
    have hshorter : after.length < xs.length := by
      rw [heq, List.length_append, List.length_cons]
      omega
    rw [heq]
    exact cut before after hbefore (cut_induction a last cut after)
  · exact last xs hmem
termination_by xs.length

theorem linesAt_of_notMem (h : a ∉ xs) : linesAt a xs = if xs = [] then [] else [xs] := by
  unfold linesAt dropEmptyLast
  rw [List.splitOn_eq_singleton h]
  simp

theorem linesAt_append_cons (h : a ∉ xs) : linesAt a (xs ++ a :: ys) = xs :: linesAt a ys := by
  have hsome : ys.splitOn a ≠ [] := List.splitOn_ne_nil a ys
  unfold linesAt dropEmptyLast
  rw [List.splitOn_append_cons_self_of_not_mem h, List.getLast?_cons_of_ne_nil hsome,
    List.dropLast_cons_of_ne_nil hsome]
  split <;> rfl

theorem notMem_of_mem_linesAt {piece : List α} (h : piece ∈ linesAt a xs) : a ∉ piece := by
  induction xs using cut_induction a with
  | last xs hxs =>
      rw [linesAt_of_notMem hxs] at h
      split at h
      · cases h
      · exact List.mem_singleton.mp h ▸ hxs
  | cut xs ys hxs ih =>
      rw [linesAt_append_cons hxs] at h
      rcases List.mem_cons.mp h with rfl | hrest
      · exact hxs
      · exact ih hrest

/-- A map that takes separators to separators, and nothing else to them, keeps the pieces. It need
not be an element-wise one: decoding makes one character of several bytes. -/
theorem linesAt_of_cuts {f : List α → List β} {b : β}
    (hcut : ∀ xs ys, f (xs ++ a :: ys) = f xs ++ b :: f ys) (hclean : ∀ xs, a ∉ xs → b ∉ f xs)
    (hempty : ∀ xs, f xs = [] ↔ xs = []) (xs : List α) :
    linesAt b (f xs) = (linesAt a xs).map f := by
  induction xs using cut_induction a with
  | last xs h =>
      rw [linesAt_of_notMem (hclean xs h), linesAt_of_notMem h]
      simp only [hempty]
      split <;> rfl
  | cut xs ys h ih =>
      rw [hcut, linesAt_append_cons (hclean xs h), linesAt_append_cons h, ih, List.map_cons]

/-- As many pieces as separators, and one more for what the last separator does not end. -/
theorem length_linesAt (a : α) (xs : List α) :
    (linesAt a xs).length =
      xs.count a + if xs = [] ∨ xs.getLast? = some a then 0 else 1 := by
  induction xs using cut_induction a with
  | last xs h =>
      have hlast : xs.getLast? ≠ some a := fun hend => h (List.mem_of_getLast? hend)
      rw [linesAt_of_notMem h, List.count_eq_zero_of_not_mem h]
      simp only [hlast, or_false]
      split <;> rfl
  | cut xs ys h ih =>
      have hend : (xs ++ a :: ys).getLast? = some a ↔ ys = [] ∨ ys.getLast? = some a := by
        rw [List.getLast?_append, List.getLast?_cons, Option.some_or]
        cases hy : ys.getLast? with
        | none => simp [List.getLast?_eq_none_iff.mp hy]
        | some y => simp [List.ne_nil_of_mem (List.mem_of_getLast? hy)]
      have hsome : xs ++ a :: ys ≠ [] := by simp
      rw [linesAt_append_cons h, List.length_cons, ih, List.count_append,
        List.count_eq_zero_of_not_mem h, List.count_cons_self]
      simp only [hsome, hend, false_or]
      omega

end Cutting

/-! ### Decoding across line feeds -/

namespace Utf8

/-- The byte of a line feed. -/
def newline : UInt8 := 10

/-- The characters that bytes spell, with U+FFFD in place of each ill-formed part. -/
def lossyChars (s : Octets) : List Char :=
  (pieces s).map (·.getD '\ufffd')

/-- What an unfinished character wants next is no ASCII byte, and what it has so far is more than
the code of a line feed. This is the invariant of the decoder: the first half makes a line feed end
what is unfinished, the second keeps anything else from becoming one. -/
def Pending.Sound : Pending → Prop
  | .idle => True
  | .inside _ low _ code => 0x80 ≤ low.toNat ∧ 10 < code * 64 + (low.toNat - 0x80)

/-! #### One byte -/

theorem start_sound (b : UInt8) : (start b).1.Sound := by
  fun_cases start b with
  | case1 | case9 => trivial
  | case3 | case4 | case6 | case8 => simp [Pending.Sound]
  | case2 _ h | case5 _ _ _ _ h | case7 _ _ _ _ _ _ h =>
      -- The first byte leaves a code that is not zero, and so far more is to come.
      have hlow := UInt8.le_iff_toNat_le.mp h.1
      simp only [UInt8.reduceToNat] at hlow
      simp only [Pending.Sound, UInt8.reduceToNat]
      omega

/-- A code is that of a line feed only if it is its number. -/
theorem eq_of_ofNat_eq_newline {n : Nat} (h : Char.ofNat n = '\n') : n = 10 := by
  unfold Char.ofNat at h
  by_cases hvalid : n.isValidChar
  · rw [dif_pos hvalid] at h
    exact congrArg (fun c : Char => c.val.toNat) h
  · rw [dif_neg hvalid] at h
    cases h

theorem newline_notMem_start {b : UInt8} (h : b ≠ newline) : some '\n' ∉ (start b).2 := by
  fun_cases start b with
  | case1 =>
      intro hmem
      have hcode := eq_of_ofNat_eq_newline (Option.some.inj (List.mem_singleton.mp hmem)).symm
      exact h (UInt8.toNat_inj.mp hcode)
  | _ => simp

section Feed

variable {p : Pending} {b : UInt8}

/-- A line feed ends what is unfinished, and then stands for itself. -/
theorem feed_newline (h : p.Sound) : feed p newline = (.idle, finish p ++ [some '\n']) := by
  cases p with
  | idle => rfl
  | inside need low high code =>
      have hlow : ¬low ≤ newline := by
        rw [UInt8.le_iff_toNat_le]
        have := h.1
        simp only [newline, UInt8.reduceToNat]
        omega
      unfold feed
      dsimp only
      rw [if_neg fun hin => hlow hin.1]
      rfl

theorem feed_sound (h : p.Sound) : (feed p b).1.Sound := by
  fun_cases feed p b with
  | case1 => exact start_sound b
  | case2 => trivial
  | case3 need low high code hin code' hneed =>
      have hlow := UInt8.le_iff_toNat_le.mp hin.1
      obtain ⟨hrange, hcode⟩ := h
      simp only [Pending.Sound, UInt8.reduceToNat]
      omega
  | case4 need low high code hout p' out heq =>
      have := start_sound b
      rwa [heq] at this

/-- No other byte completes a line feed: the code of a character that takes several bytes is larger,
however little of it is there yet. -/
theorem newline_notMem_feed (h : p.Sound) (hb : b ≠ newline) : some '\n' ∉ (feed p b).2 := by
  fun_cases feed p b with
  | case1 => exact newline_notMem_start hb
  | case2 need low high code hin code' hneed =>
      intro hmem
      have hcode := eq_of_ofNat_eq_newline (Option.some.inj (List.mem_singleton.mp hmem)).symm
      have hlow := UInt8.le_iff_toNat_le.mp hin.1
      obtain ⟨hrange, hmore⟩ := h
      omega
  | case3 => simp
  | case4 need low high code hout p' out heq =>
      have := newline_notMem_start hb
      rw [heq] at this
      simpa using this

/-! #### Many bytes -/

theorem run_newline (h : p.Sound) (s t : Octets) :
    run p [] (s ++ newline :: t) = run p [] s ++ some '\n' :: run .idle [] t := by
  induction s generalizing p with
  | nil => simp [run_nil_cons, feed_newline h, run]
  | cons b rest ih =>
      rw [List.cons_append, run_nil_cons, run_nil_cons, ih (feed_sound h), List.append_assoc]

theorem newline_notMem_run (h : p.Sound) {s : Octets} (hs : newline ∉ s) :
    some '\n' ∉ run p [] s := by
  induction s generalizing p with
  | nil => cases p <;> simp [run, finish]
  | cons b rest ih =>
      simp only [List.mem_cons, not_or] at hs
      rw [run_nil_cons, List.mem_append, not_or]
      exact ⟨newline_notMem_feed h (Ne.symm hs.1), ih (feed_sound h) hs.2⟩

theorem start_idle_ne_nil (b : UInt8) : (start b).1 = .idle → (start b).2 ≠ [] := by
  fun_cases start b <;> simp

/-- A byte adds a piece or leaves something unfinished. -/
theorem feed_idle_ne_nil (p : Pending) (b : UInt8) : (feed p b).1 = .idle → (feed p b).2 ≠ [] := by
  fun_cases feed p b with
  | case1 => exact start_idle_ne_nil b
  | case2 | case3 | case4 => simp

theorem run_eq_nil_iff (p : Pending) (s : Octets) : run p [] s = [] ↔ p = .idle ∧ s = [] := by
  induction s generalizing p with
  | nil => cases p <;> simp [run, finish]
  | cons b rest ih =>
      rw [run_nil_cons, List.append_eq_nil_iff, ih]
      simp only [List.cons_ne_nil, and_false, iff_false, not_and]
      intro hnone hidle
      exact absurd hnone (feed_idle_ne_nil p b hidle)

end Feed

/-! ### Texts -/

theorem decodeLossy_eq (s : Octets) : decodeLossy s = String.ofList (lossyChars s) := rfl

theorem lossyChars_newline (s t : Octets) :
    lossyChars (s ++ newline :: t) = lossyChars s ++ '\n' :: lossyChars t := by
  have hpieces : pieces (s ++ newline :: t) = pieces s ++ some '\n' :: pieces t :=
    run_newline (p := .idle) trivial s t
  simp [lossyChars, hpieces]

theorem newline_notMem_lossyChars {s : Octets} (h : newline ∉ s) : '\n' ∉ lossyChars s := by
  intro hmem
  obtain ⟨piece, hpiece, heq⟩ := List.mem_map.mp hmem
  cases piece with
  | none => cases heq
  | some c =>
      obtain rfl : c = '\n' := heq
      exact newline_notMem_run (p := .idle) trivial h hpiece

theorem lossyChars_eq_nil_iff (s : Octets) : lossyChars s = [] ↔ s = [] := by
  unfold lossyChars pieces
  rw [List.map_eq_nil_iff, run_eq_nil_iff]
  simp

/-- **Decoding goes line by line**: cutting the decoded text at its line feeds gives the decoded
lines, and an ill-formed part at the end of a line does not take anything of the next one with it.
-/
theorem linesAt_lossyChars (s : Octets) :
    linesAt '\n' (lossyChars s) = (linesAt newline s).map lossyChars :=
  linesAt_of_cuts lossyChars_newline (fun _ => newline_notMem_lossyChars) lossyChars_eq_nil_iff s

end Utf8
end Switchyard
