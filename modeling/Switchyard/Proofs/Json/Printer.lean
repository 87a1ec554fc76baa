import Switchyard.Json.Printer

/-!
# Switchyard.Proofs.Json.Printer

**Printed text has no control characters.** In strings they are escaped (`uncontrolled_escape`), and
nothing else that is written has any: the names of constants, brackets and numbers. So there is none
in the text of a value, whatever the value holds (`uncontrolled_render`). The text of an object is
not empty (`render_object_ne_empty`).

The printer puts the text of a value behind the text so far, and so each of its functions has a
lemma that says what becomes of a text without control characters.

It matters for a reply that is carried in texts which end at a zero: of all characters only the zero
would cut such a text, but that the printer leaves no control character at all is as easy to see,
and is one statement for every text it writes.
-/

namespace Switchyard

/-- No character is a control character below U+0020. -/
def Uncontrolled (cs : List Char) : Prop :=
  ∀ c ∈ cs, 0x20 ≤ c.toNat

instance (cs : List Char) : Decidable (Uncontrolled cs) :=
  List.decidableBAll _ cs

namespace Uncontrolled

variable {cs ds : List Char} {out s : String} {c : Char}

theorem nil : Uncontrolled [] := by
  simp [Uncontrolled]

theorem cons (hc : 0x20 ≤ c.toNat) (h : Uncontrolled cs) : Uncontrolled (c :: cs) := by
  simpa [Uncontrolled] using ⟨hc, h⟩

theorem append (h : Uncontrolled cs) (h' : Uncontrolled ds) : Uncontrolled (cs ++ ds) := by
  intro c hc
  rcases List.mem_append.mp hc with hc | hc
  · exact h c hc
  · exact h' c hc

theorem subset (h : Uncontrolled cs) (hsub : ds ⊆ cs) : Uncontrolled ds :=
  fun c hc => h c (hsub hc)

theorem replicate (hc : 0x20 ≤ c.toNat) (n : Nat) : Uncontrolled (List.replicate n c) := by
  intro d hd
  rw [(List.mem_replicate.mp hd).2]
  exact hc

theorem push (h : Uncontrolled out.toList) (hc : 0x20 ≤ c.toNat) :
    Uncontrolled (out.push c).toList := by
  rw [String.toList_push]
  exact h.append (.cons hc .nil)

theorem append_string (h : Uncontrolled out.toList) (h' : Uncontrolled s.toList) :
    Uncontrolled (out ++ s).toList := by
  rw [String.toList_append]
  exact h.append h'

end Uncontrolled

/-! ### Numbers -/

theorem le_toNat_of_isDigit {c : Char} (h : c.isDigit = true) : 0x20 ≤ c.toNat := by
  simp only [Char.isDigit, Bool.and_eq_true, decide_eq_true_eq, UInt32.le_iff_toNat_le] at h
  exact Nat.le_trans (by decide) h.1

theorem uncontrolled_nat (n : Nat) : Uncontrolled (toString n).toList := by
  intro c hc
  rw [Nat.toString_eq_repr, Nat.repr, String.toList_ofList] at hc
  exact le_toNat_of_isDigit (Nat.isDigit_of_mem_toDigits (by decide) (by decide) hc)

theorem uncontrolled_int (n : Int) : Uncontrolled (toString n).toList := by
  cases n with
  | ofNat n => exact uncontrolled_nat n
  | negSucc n =>
      have hsign : Uncontrolled "-".toList := .cons (by decide) .nil
      exact hsign.append_string (uncontrolled_nat (n + 1))

/-- A double is written with digits, a point, signs and the letter of its exponent. The three forms
differ by where the point stands, and in each of them there are only digits around it. -/
theorem uncontrolled_double (d : Double) : Uncontrolled d.render.toList := by
  have hdigits := uncontrolled_nat d.shortest.digits
  have htake (n : Nat) : Uncontrolled ((toString d.shortest.digits).toList.take n) :=
    hdigits.subset (List.take_subset n _)
  have hdrop (n : Nat) : Uncontrolled ((toString d.shortest.digits).toList.drop n) :=
    hdigits.subset (List.drop_subset n _)
  have hpoint : 0x20 ≤ '.'.toNat := by decide
  have hzero : 0x20 ≤ '0'.toNat := by decide
  have hzeros : Uncontrolled ['0', '.'] := .cons hzero (.cons hpoint .nil)
  unfold Double.render
  dsimp only
  rw [String.toList_ofList]
  have hsigned : ∀ body, Uncontrolled body →
      Uncontrolled (if d.negative then '-' :: body else body) := by
    intro body hbody
    split
    · exact .cons (by decide) hbody
    · exact hbody
  apply hsigned
  split
  · exact .cons hzero (.cons hpoint (.cons hzero .nil))
  · split
    · split
      · exact (hzeros.append (.replicate hzero _)).append hdigits
      · split
        · exact (hdigits.append (.replicate hzero _)).append (.cons hpoint (.cons hzero .nil))
        · exact (htake _).append (.cons hpoint (hdrop _))
    · refine (((htake _).append ?_).append ?_).append (uncontrolled_nat _)
      · split
        · exact .nil
        · exact .cons hpoint (hdrop _)
      · split
        · exact .cons (by decide) (.cons (by decide) .nil)
        · exact .cons (by decide) (.cons (by decide) .nil)

namespace Json

theorem uncontrolled_number {out : String} (h : Uncontrolled out.toList) (n : Number) :
    Uncontrolled (writeNumber out n).toList := by
  cases n with
  | integer n => exact h.append_string (uncontrolled_int n.val)
  | double d => exact h.append_string (uncontrolled_double d)

/-! ### Strings -/

theorem le_toNat_hexDigit {n : Nat} (h : n < 16) : 0x20 ≤ (Octets.hexDigit n).toNat := by
  have hall : ∀ k < 16, 0x20 ≤ (Octets.hexDigit k).toNat := by decide
  exact hall n h

/-- A control character is written by printable ones: a backslash with a letter, or with `u` and
four digits. -/
theorem uncontrolled_escape (c : Char) : Uncontrolled (escape c) := by
  have hback : 0x20 ≤ '\\'.toNat := by decide
  have hletter : ∀ d : Char, 0x20 ≤ d.toNat → Uncontrolled ['\\', d] :=
    fun d hd => .cons hback (.cons hd .nil)
  unfold escape
  split
  · exact hletter '"' (by decide)
  split
  · exact hletter '\\' (by decide)
  split
  · exact hletter 'b' (by decide)
  split
  · exact hletter 'f' (by decide)
  split
  · exact hletter 'n' (by decide)
  split
  · exact hletter 'r' (by decide)
  split
  · exact hletter 't' (by decide)
  split
  · rename_i hcontrol
    have hdigits : Uncontrolled
        [Octets.hexDigit (c.toNat / 16), Octets.hexDigit (c.toNat % 16)] :=
      .cons (le_toNat_hexDigit (by omega)) (.cons (le_toNat_hexDigit (by omega)) .nil)
    exact .cons hback (.cons (by decide) (.cons (by decide) (.cons (by decide) hdigits)))
  · rename_i hplain
    exact .cons (by omega) .nil

theorem toList_pushes (out : String) (cs : List Char) :
    (cs.foldl String.push out).toList = out.toList ++ cs := by
  induction cs generalizing out with
  | nil => simp
  | cons c cs ih =>
      rw [List.foldl_cons, ih]
      simp

theorem uncontrolled_writeChar {out : String} (h : Uncontrolled out.toList) (c : Char) :
    Uncontrolled (writeChar out c).toList := by
  unfold writeChar
  rw [toList_pushes]
  exact h.append (uncontrolled_escape c)

theorem uncontrolled_writeString {out : String} (h : Uncontrolled out.toList) (s : String) :
    Uncontrolled (writeString out s).toList := by
  have hfold (cs : List Char) (out : String) (h : Uncontrolled out.toList) :
      Uncontrolled (cs.foldl writeChar out).toList := by
    induction cs generalizing out with
    | nil => exact h
    | cons c cs ih => exact ih _ (uncontrolled_writeChar h c)
  exact (hfold _ _ (h.push (by decide))).push (by decide)

/-! ### Values -/

-- The printer is given what it has written so far, and adds to that.
mutual

theorem uncontrolled_write {out : String} (h : Uncontrolled out.toList) :
    (j : Json) → Uncontrolled (write out j).toList
  | .null => h.append_string (s := "null") (by decide)
  | .bool true => h.append_string (s := "true") (by decide)
  | .bool false => h.append_string (s := "false") (by decide)
  | .number n => uncontrolled_number h n
  | .string s => uncontrolled_writeString h s
  | .array [] => h.append_string (s := "[]") (by decide)
  | .array (j :: rest) => uncontrolled_writeItems (uncontrolled_write (h.push (by decide)) j) rest
  | .object [] => h.append_string (s := "\x7b\x7d") (by decide)
  | .object ((k, j) :: rest) =>
    uncontrolled_writeMembers (uncontrolled_write
      ((uncontrolled_writeString (h.push (by decide)) k).push (by decide)) j) rest

theorem uncontrolled_writeItems {out : String} (h : Uncontrolled out.toList) :
    (items : List Json) → Uncontrolled (writeItems out items).toList
  | [] => h.push (by decide)
  | j :: rest => uncontrolled_writeItems (uncontrolled_write (h.push (by decide)) j) rest

theorem uncontrolled_writeMembers {out : String} (h : Uncontrolled out.toList) :
    (members : Members) → Uncontrolled (writeMembers out members).toList
  | [] => h.push (by decide)
  | (k, j) :: rest =>
    uncontrolled_writeMembers (uncontrolled_write
      ((uncontrolled_writeString (h.push (by decide)) k).push (by decide)) j) rest

end

theorem writeMembers_ne_empty (out : String) (members : Members) :
    writeMembers out members ≠ "" := by
  induction members generalizing out with
  | nil => rw [writeMembers]; exact String.push_ne_empty
  | cons m rest ih => exact ih _

/-- The text of an object has its braces at least, so that there is always something to cut into
chunks. -/
theorem render_object_ne_empty (members : Members) : (Json.object members).render ≠ "" := by
  cases members with
  | nil => decide
  | cons m rest => exact writeMembers_ne_empty _ _

/-- The text of a value has no control characters. -/
theorem uncontrolled_render (j : Json) : Uncontrolled j.render.toList :=
  uncontrolled_write (show Uncontrolled "".toList from .nil) j

end Json
end Switchyard
