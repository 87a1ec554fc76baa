import Switchyard.Proofs.Json.Widths
import Switchyard.Proofs.Text.WellFormed

/-!
# Switchyard.Proofs.Json.Budget

**No text of a value takes more bytes than it was read from** (`texts_le_of_parse`): the strings and
keys of a value that was read, as they are written in quotation marks, take no more bytes together
than the text of the value.

Every reader pays for what it gives with the bytes that it takes (`Within`): what the result takes
when it is written, and what is left of the text, are together no more than the text there was.
Where a reader fails, the words for it do not depend on the text (`Cause.Fixed`), and only its
place does (`width_message_of_parse`).

There is one lemma for each reader, in the order in which the readers call each other, and each says
what the reader leaves and what it gives. The readers that only skip leave no more than they found.
Escapes are where something can be gained: a character may be written by fewer bytes than its
escape, never by more (`within_readEscape`). The three readers of values, items and members call
each other, so `WithinAll` states their bounds together, and its proof is an induction on the fuel.

* `Within.bind` — one reader after another; what the second may take is what the first has left.
* `texts` counts strings and keys only. Brackets, numbers and blanks are paid for as well, but
  nothing that is written from a value depends on them here.
-/

namespace Switchyard.Json

/-! ### What readers pay -/

/-- Causes whose words do not depend on the text. The others are for typed readers, which name what
they have found. -/
def Cause.Fixed : Cause → Prop
  | .wrongType .. | .wrongValue .. | .wrongLength .. | .unknownVariant .. | .missingField _
  | .duplicateField _ | .other _ => False
  | _ => True

theorem Cause.Fixed.width_le {c : Cause} (h : c.Fixed) : width c.message ≤ 72 := by
  cases c
  all_goals first
    | exact False.elim h
    | decide

/-- What a reader gives takes no more than the bytes there were, or it fails with fixed words. The
size is a function of the whole result, so that it can count what is left together with what was
read. -/
def Within {α : Type} (size : α → Nat) (budget : Nat) : Except Fault α → Prop
  | .ok a => size a ≤ budget
  | .error f => f.cause.Fixed

namespace Within

variable {α β : Type} {size : α → Nat} {size' : β → Nat} {budget budget' : Nat}
  {x : Except Fault α}

theorem mono (h : Within size budget x) (hle : budget ≤ budget') : Within size budget' x := by
  cases x with
  | error f => exact h
  | ok a => exact Nat.le_trans h hle

/-- What comes next is paid for with what the first reader leaves. The second budget may be another
one than the first, because a reader is often called after a byte has been taken. -/
theorem bind {f : α → Except Fault β} (h : Within size budget x)
    (hnext : ∀ a, size a ≤ budget → Within size' budget' (f a)) :
    Within size' budget' (x >>= f) := by
  cases x with
  | error e => exact h
  | ok a => exact hnext a h

theorem of_eq_ok {a : α} (h : Within size budget x) (hx : x = .ok a) : size a ≤ budget := by
  subst hx
  exact h

theorem of_eq_error {f : Fault} (h : Within size budget x) (hx : x = .error f) : f.cause.Fixed := by
  subst hx
  exact h

end Within

/-! ### Blanks, words and digits -/

theorem length_skipBlanks_le (s : Octets) : (skipBlanks s).length ≤ s.length := by
  fun_induction skipBlanks s with
  | case1 => exact Nat.le_refl _
  | case2 b rest _ ih => exact Nat.le_succ_of_le ih
  | case3 => exact Nat.le_refl _

theorem length_skipDigits_le (s : Octets) : (skipDigits s).length ≤ s.length := by
  fun_induction skipDigits s with
  | case1 => exact Nat.le_refl _
  | case2 b rest _ ih => exact Nat.le_succ_of_le ih
  | case3 => exact Nat.le_refl _

theorem length_takeDigits_le (n count : Nat) (s : Octets) :
    (takeDigits n count s).rest.length ≤ s.length := by
  fun_induction takeDigits n count s with
  | case2 n count b rest _ m _ ih => exact Nat.le_succ_of_le ih
  | _ => exact Nat.le_refl _

theorem length_takeExponent_le (e : Nat) (s : Octets) :
    (takeExponent e s).2.length ≤ s.length := by
  fun_induction takeExponent e s with
  | case2 e b rest _ e' _ ih => exact Nat.le_succ_of_le ih
  | case3 => exact Nat.le_succ _
  | _ => exact Nat.le_refl _

theorem within_readWord (word s : Octets) : Within List.length s.length (readWord word s) := by
  fun_induction readWord word s with
  | case1 => exact Nat.le_refl _
  | case3 w word rest ih => exact ih.mono (Nat.le_succ _)
  | _ => trivial

/-! ### Numbers -/

/-- What a reader of numbers leaves. -/
def left (x : Number × Octets) : Nat :=
  x.2.length

theorem within_assemble (negative : Bool) (n : Nat) (e : Int) (rest : Octets) :
    Within left rest.length (assemble negative n e rest) := by
  unfold assemble
  split
  · exact Nat.le_refl _
  · trivial

theorem length_le_of_sign {s rest : Octets} {down : Bool}
    (h : (match s with
      | 0x2B :: rest => (false, rest)
      | 0x2D :: rest => (true, rest)
      | _ => (false, s)) = (down, rest)) : rest.length ≤ s.length := by
  split at h
  all_goals
    cases h
    simp

theorem within_readExponent (negative : Bool) (n : Nat) (e : Int) (s : Octets) :
    Within left s.length (readExponent negative n e s) := by
  fun_cases readExponent negative n e s with
  | case1 | case3 | case5 => trivial
  | case2 _ b digits _ x rest htake _ hsign =>
      have hsigned : digits.length + 1 ≤ s.length := length_le_of_sign hsign
      have htaken := length_takeExponent_le (digitValue b) digits
      simp only [htake] at htaken
      exact (within_assemble ..).mono (by omega)
  | case4 _ b digits _ rest htake _ hsign =>
      have hsigned : digits.length + 1 ≤ s.length := length_le_of_sign hsign
      have htaken := length_takeExponent_le (digitValue b) digits
      simp only [htake] at htaken
      have hskipped := length_skipDigits_le rest
      simp only [Within, left]
      omega

theorem within_readAfterFraction (negative : Bool) (n : Nat) (e : Int) (s : Octets) :
    Within left s.length (readAfterFraction negative n e s) := by
  fun_cases readAfterFraction negative n e s with
  | case1 rest => exact (within_readExponent ..).mono (Nat.le_succ _)
  | case2 rest => exact (within_readExponent ..).mono (Nat.le_succ _)
  | case3 => exact within_assemble ..

theorem within_readFraction (negative : Bool) (n : Nat) (e : Int) (s : Octets) :
    Within left s.length (readFraction negative n e s) := by
  have htaken := length_takeDigits_le n 0 s
  fun_cases readFraction negative n e s with
  | case1 d _ =>
      have hskipped := length_skipDigits_le d.rest
      exact (within_readAfterFraction ..).mono (Nat.le_trans hskipped htaken)
  | case2 | case3 => trivial
  | case4 d => exact (within_readAfterFraction ..).mono htaken

theorem within_readAfterInteger (negative : Bool) (n : Nat) (e : Int) (s : Octets) :
    Within left s.length (readAfterInteger negative n e s) := by
  fun_cases readAfterInteger negative n e s with
  | case1 rest => exact (within_readFraction ..).mono (Nat.le_succ _)
  | case2 => exact within_readAfterFraction ..

theorem within_ofInteger (negative : Bool) (n : Nat) (rest : Octets) :
    Within left rest.length (ofInteger negative n rest) := by
  fun_cases ofInteger negative n rest with
  | case1 | case3 => exact within_assemble ..
  | case2 => exact Nat.le_refl _

theorem within_readTail (negative : Bool) (n : Nat) (s : Octets) :
    Within left s.length (readTail negative n s) := by
  fun_cases readTail negative n s with
  | case4 => exact within_ofInteger ..
  | _ => exact within_readAfterInteger ..

theorem within_readNumber (negative : Bool) (s : Octets) :
    Within left s.length (readNumber negative s) := by
  fun_cases readNumber negative s with
  | case1 | case2 | case7 => trivial
  | case3 | case4 => exact (within_readTail ..).mono (Nat.le_succ _)
  | case5 b rest _ _ d _ after =>
      have htaken := length_takeDigits_le (digitValue b) 0 rest
      have hskipped := length_skipDigits_le d.rest
      refine (within_readAfterInteger ..).mono ?_
      exact Nat.le_succ_of_le (Nat.le_trans hskipped htaken)
  | case6 b rest _ _ d _ =>
      have htaken := length_takeDigits_le (digitValue b) 0 rest
      exact (within_readTail ..).mono (Nat.le_succ_of_le htaken)

/-! ### Strings -/

theorem within_readHexWord (s : Octets) :
    Within (fun x => 4 + x.2.length) s.length (readHexWord s) := by
  fun_cases readHexWord s with
  | case1 a b c d rest n _ =>
      simp only [Within, List.length_cons]
      omega
  | case2 | case3 => trivial

/-- A character and what is left. -/
def charAndLeft (x : Char × Octets) : Nat :=
  charWidth x.1 + x.2.length

theorem within_readLowSurrogate (high : Nat) (s : Octets) :
    Within charAndLeft s.length (readLowSurrogate high s) := by
  fun_cases readLowSurrogate high s with
  | case3 rest =>
      refine (within_readHexWord rest).bind fun x hx => ?_
      dsimp only
      split
      · have hwidth := charWidth_le
          (Char.ofNat ((high - 0xD800) * 0x400 + (x.1 - 0xDC00) + 0x10000))
        simp only [Within, charAndLeft, pure, Except.pure, List.length_cons]
        omega
      · trivial
  | _ => trivial

/-- An escape takes no less than the character it stands for; its backslash has been taken. The
longest is that of a control character, whose six bytes are those that it is written with. -/
theorem within_readEscape (s : Octets) :
    Within charAndLeft (s.length + 1) (readEscape s) := by
  have hletter {c : Char} (hc : charWidth c ≤ 2) (rest : Octets) :
      Within charAndLeft (rest.length + 1 + 1) (.ok (c, rest)) := by
    simp only [Within, charAndLeft]
    omega
  fun_cases readEscape s with
  | case1 | case11 => trivial
  | case10 rest =>
      refine (within_readHexWord rest).bind fun x hx => ?_
      dsimp only
      split
      · trivial
      · split
        · refine (within_readLowSurrogate x.1 x.2).mono ?_
          rw [List.length_cons]
          omega
        · have hwidth := charWidth_le (Char.ofNat x.1)
          simp only [Within, charAndLeft, pure, Except.pure, List.length_cons]
          omega
  | _ => exact hletter (by decide) _

/-- A string and what is left. -/
def textAndLeft (x : String × Octets) : Nat :=
  width x.1 + x.2.length

theorem within_readQuoted (fuel : Nat) (acc s : Octets) :
    Within (fun x => bytesWidth x.1 + x.2.length) (bytesWidth acc + s.length)
      (readQuoted fuel acc s) := by
  induction fuel generalizing acc s with
  | zero => trivial
  | succ fuel ih =>
      cases s with
      | nil => trivial
      | cons b rest =>
          rw [readQuoted]
          split
          · simp only [Within, bytesWidth_reverse, List.length_cons]
            omega
          · split
            · refine (within_readEscape rest).bind fun x hx => (ih _ _).mono ?_
              rw [bytesWidth_append, bytesWidth_reverse, bytesWidth_encodeChar, List.length_cons]
              simp only [charAndLeft] at hx
              omega
            · split
              · trivial
              · have hwidth := byteWidth_plain ‹¬b = 0x22› ‹¬b = 0x5C› ‹¬b < 0x20›
                refine (ih _ _).mono ?_
                rw [bytesWidth_cons, hwidth, List.length_cons]
                omega

theorem within_readString (fuel : Nat) (s : Octets) :
    Within textAndLeft s.length (readString fuel s) := by
  refine (within_readQuoted fuel [] s).bind fun x hx => ?_
  dsimp only
  split
  · rename_i t ht
    have hbytes := Utf8.decode?_eq_some_iff.mp ht
    rw [hbytes, bytesWidth_encode] at hx
    simpa [Within, textAndLeft, bytesWidth, pure, Except.pure] using hx
  · trivial

/-! ### Containers -/

/-- What is left where there may be something to go on with. -/
def leftIfAny (rest : Option Octets) : Nat :=
  (rest.map List.length).getD 0

theorem length_of_skipBlanks {s rest : Octets} {b : UInt8} (h : skipBlanks s = b :: rest) :
    rest.length + 1 ≤ s.length := by
  have hs := length_skipBlanks_le s
  rwa [h, List.length_cons] at hs

theorem within_nextItem (first : Bool) (s : Octets) :
    Within leftIfAny s.length (nextItem first s) := by
  fun_cases nextItem first s with
  | case2 rest hs => exact Nat.zero_le _
  | case3 b rest hs => exact length_of_skipBlanks hs
  | case6 rest _ c more hmore _ hs =>
      have hfirst := length_of_skipBlanks hs
      have hsecond := length_of_skipBlanks hmore
      simp only [Within, leftIfAny, Option.map_some, Option.getD_some, List.length_cons]
      omega
  | _ => trivial

theorem within_nextKey (first : Bool) (s : Octets) :
    Within leftIfAny s.length (nextKey first s) := by
  fun_cases nextKey first s with
  | case2 rest hs => exact Nat.zero_le _
  | case3 rest _ hs => exact Nat.le_of_succ_le (length_of_skipBlanks hs)
  | case6 rest _ more hs _ hmore =>
      have hfirst := length_of_skipBlanks hs
      have hsecond := length_of_skipBlanks hmore
      simp only [Within, leftIfAny, Option.map_some, Option.getD_some]
      omega
  | _ => trivial

theorem within_readColon (s : Octets) : Within List.length s.length (readColon s) := by
  fun_cases readColon s with
  | case2 rest hs => exact Nat.le_of_succ_le (length_of_skipBlanks hs)
  | _ => trivial

/-- What a reader of a container's end leaves, or its fault. -/
def ClosesWithin (budget : Nat) : Option Fault × Octets → Prop
  | (none, rest) => rest.length ≤ budget
  | (some f, _) => f.cause.Fixed

theorem within_closeList (s : Octets) : ClosesWithin s.length (closeList s) := by
  fun_cases closeList s with
  | case2 rest hs => exact Nat.le_of_succ_le (length_of_skipBlanks hs)
  | _ => trivial

theorem within_closeObject (s : Octets) : ClosesWithin s.length (closeObject s) := by
  fun_cases closeObject s with
  | case2 rest hs => exact Nat.le_of_succ_le (length_of_skipBlanks hs)
  | _ => trivial

/-- The texts of a value and what is left. -/
def textsAndLeft (x : Json × Octets) : Nat :=
  texts x.1 + x.2.length

/-- A value and what is read in the containers around it pay for their texts; what was read before
has been paid for. The accumulators are counted in, so that an item can be moved there from the
text. -/
structure WithinAll (fuel : Nat) : Prop where
  value (depth : Nat) (s : Octets) : Within textsAndLeft s.length (readValue fuel depth s)
  items (depth : Nat) (acc : List Json) (s : Octets) :
    Within textsAndLeft (textsItems acc + s.length) (readItems fuel depth acc s)
  members (depth : Nat) (first : Bool) (acc : Members) (s : Octets) :
    Within textsAndLeft (textsMembers acc + s.length) (readMembers fuel depth first acc s)

namespace WithinAll

variable {fuel : Nat}

theorem readValue (h : WithinAll fuel) (depth : Nat) (s : Octets) :
    Within textsAndLeft s.length (readValue (fuel + 1) depth s) := by
  have hscalar {j : Json} (hj : texts j = 0) {rest : Octets} (hrest : rest.length ≤ s.length) :
      Within textsAndLeft s.length (.ok (j, rest)) := by
    simp only [Within, textsAndLeft, hj]
    omega
  -- Words and numbers have no texts, so that only what they leave is to be counted.
  have hword {j : Json} (hj : texts j = 0) (word : Octets) {rest : Octets}
      (hrest : rest.length + 1 ≤ s.length) :
      Within textsAndLeft s.length (readWord word rest >>= fun rest => .ok (j, rest)) :=
    (within_readWord word rest).bind fun t ht =>
      hscalar hj (Nat.le_trans ht (Nat.le_of_succ_le hrest))
  have hnumber (negative : Bool) {t : Octets} (ht : t.length ≤ s.length) :
      Within textsAndLeft s.length
        (readNumber negative t >>= fun x => .ok (.number x.1, x.2)) :=
    (within_readNumber negative t).bind fun x hx => hscalar rfl (Nat.le_trans hx ht)
  rw [Json.readValue]
  split
  next => trivial
  next b rest hs =>
    have hrest := length_of_skipBlanks hs
    split
    · exact hword rfl _ hrest
    split
    · exact hword rfl _ hrest
    split
    · exact hword rfl _ hrest
    split
    · exact hnumber true (Nat.le_of_succ_le hrest)
    split
    · exact hnumber false hrest
    split
    · refine (within_readString fuel rest).bind fun x hx => ?_
      exact Nat.le_trans hx (Nat.le_of_succ_le hrest)
    split
    · split
      · trivial
      · exact (h.items (depth - 1) [] rest).mono (by rw [textsItems]; omega)
    split
    · split
      · trivial
      · exact (h.members (depth - 1) true [] rest).mono (by rw [textsMembers]; omega)
    · trivial

theorem readItems (h : WithinAll fuel) (depth : Nat) (acc : List Json) (s : Octets) :
    Within textsAndLeft (textsItems acc + s.length) (readItems (fuel + 1) depth acc s) := by
  rw [Json.readItems]
  cases hnext : nextItem acc.isEmpty s with
  | error f => exact (within_nextItem _ s).of_eq_error hnext
  | ok next =>
      have hleft := (within_nextItem _ s).of_eq_ok hnext
      cases next with
      | none =>
          have hclosed := within_closeList s
          dsimp only
          split
          next rest hclose =>
            rw [hclose] at hclosed
            simp only [Within, textsAndLeft, texts, textsItems_eq, List.map_reverse,
              List.sum_reverse]
            exact Nat.add_le_add_left hclosed _
          next f rest hclose =>
            rw [hclose] at hclosed
            exact hclosed
      | some t =>
          dsimp only
          cases hvalue : Json.readValue fuel depth t with
          | error f => exact (h.value depth t).of_eq_error hvalue
          | ok x =>
              have hx := (h.value depth t).of_eq_ok hvalue
              refine (h.items depth (x.1 :: acc) x.2).mono ?_
              simp only [textsAndLeft] at hx
              simp only [leftIfAny, Option.map_some, Option.getD_some] at hleft
              rw [textsItems]
              omega

theorem readMembers (h : WithinAll fuel) (depth : Nat) (first : Bool) (acc : Members) (s : Octets) :
    Within textsAndLeft (textsMembers acc + s.length)
      (readMembers (fuel + 1) depth first acc s) := by
  rw [Json.readMembers]
  cases hnext : nextKey first s with
  | error f => exact (within_nextKey _ s).of_eq_error hnext
  | ok next =>
      have hleft := (within_nextKey _ s).of_eq_ok hnext
      cases next with
      | none =>
          have hclosed := within_closeObject s
          dsimp only
          split
          next rest hclose =>
            rw [hclose] at hclosed
            exact Nat.add_le_add_left hclosed _
          next f rest hclose =>
            rw [hclose] at hclosed
            exact hclosed
      | some t =>
          simp only [leftIfAny, Option.map_some, Option.getD_some] at hleft
          dsimp only
          cases hkey : readString fuel t with
          | error f => exact (within_readString fuel t).of_eq_error hkey
          | ok x =>
              have hx := (within_readString fuel t).of_eq_ok hkey
              dsimp only
              cases hcolon : readColon x.2 with
              | error f => exact (within_readColon x.2).of_eq_error hcolon
              | ok u =>
                  have hu := (within_readColon x.2).of_eq_ok hcolon
                  dsimp only
                  cases hvalue : Json.readValue fuel depth u with
                  | error f => exact (h.value depth u).of_eq_error hvalue
                  | ok y =>
                      have hy := (h.value depth u).of_eq_ok hvalue
                      refine (h.members depth false (insertMember x.1 y.1 acc) y.2).mono ?_
                      -- A member with the key of an earlier one takes its place, so that this is no
                      -- equation.
                      have hinsert := textsMembers_insertMember_le x.1 y.1 acc
                      simp only [textAndLeft] at hx
                      simp only [textsAndLeft] at hy
                      omega

/-- Every reader pays for what it gives. -/
theorem all : (fuel : Nat) → WithinAll fuel
  | 0 => ⟨fun _ _ => trivial, fun _ _ _ => trivial, fun _ _ _ _ => trivial⟩
  | fuel + 1 => ⟨(all fuel).readValue, (all fuel).readItems, (all fuel).readMembers⟩

end WithinAll

theorem within_readEnd (s : Octets) : Within (fun _ => 0) 0 (readEnd s) := by
  unfold readEnd
  split
  · exact Nat.le_refl 0
  · trivial

theorem within_parse (s : Octets) : Within texts s.length (parse s) := by
  refine ((WithinAll.all (fuelFor s)).value maxDepth s).bind fun x hx => ?_
  refine (within_readEnd x.2).bind fun _ _ => ?_
  exact Nat.le_trans (Nat.le_add_right _ _) hx

/-- **No text of a value takes more bytes than it was read from.** -/
theorem texts_le_of_parse {s : Octets} {j : Json} (h : parse s = .ok j) : texts j ≤ s.length :=
  (within_parse s).of_eq_ok h

/-- The words for a text that is no value do not depend on the text. -/
theorem fixed_of_parse {s : Octets} {f : Fault} (h : parse s = .error f) : f.cause.Fixed :=
  (within_parse s).of_eq_error h

/-! ### Faults in words -/

/-- Lines and columns are bytes that were read, so that both together are bounded by the length of
the text. -/
theorem after_le (read : Octets) :
    (Position.after read).line + (Position.after read).column ≤ read.length + 1 := by
  unfold Position.after
  -- A line feed turns a column into a line; what is counted never falls back.
  suffices hfold : ∀ p : Position,
      let q := read.foldl (fun p b => if b = 10 then ⟨p.line + 1, 0⟩ else ⟨p.line, p.column + 1⟩) p
      q.line + q.column ≤ read.length + (p.line + p.column) from hfold ⟨1, 0⟩
  induction read with
  | nil => exact fun p => Nat.le_of_eq (Nat.zero_add _).symm
  | cons b rest ih =>
      intro p
      rw [List.foldl_cons, List.length_cons]
      refine Nat.le_trans (ih _) ?_
      split
      all_goals
        dsimp only
        omega

/-- What is said of a text that is no value, as long as eight digits are enough for its places. The
words take at most 72 bytes, the places 33. -/
theorem width_message_of_parse {s : Octets} {f : Fault} (h : parse s = .error f)
    (hs : s.length + 1 < 100000000) : width (f.message s) ≤ 105 := by
  have hcause := (fixed_of_parse h).width_le
  unfold Fault.message
  split
  · have hplace := after_le (s.take (s.length - f.rest.length))
    have htake := List.length_take_le (s.length - f.rest.length) s
    generalize Position.after (s.take (s.length - f.rest.length)) = p at hplace
    have hline : (Nat.toDigits 10 p.line).length ≤ 8 :=
      (Nat.length_toDigits_le_iff (by decide) (by decide)).mpr (by omega)
    have hcolumn : (Nat.toDigits 10 p.column).length ≤ 8 :=
      (Nat.length_toDigits_le_iff (by decide) (by decide)).mpr (by omega)
    have hwords : width " at line " + width " column " = 17 := rfl
    simp only [width_append, width_toString]
    omega
  · omega

end Switchyard.Json
