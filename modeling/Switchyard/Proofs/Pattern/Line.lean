import Switchyard.Pattern.Parser
import Switchyard.Pattern.Search

/-!
# Switchyard.Proofs.Pattern.Line

**`.*` matches a whole line.** At the start of a text without a line feed, the pattern `.*` takes
all of it (`captures?_restOfLine`). At each place the same two threads stand side by side: one that
goes on, and one behind it that would accept what was taken so far (`ahead`). One more character
moves the first of them on and leaves the second one's match as the best so far (`advance_ahead`).

The general matcher is a simulation of threads, so what a fixed pattern matches is proved by an
invariant of its list of threads and not by looking at texts. The invariant has to say what the
slots of each thread are, because the group that `.*` is in has its end put into them.
-/

namespace Switchyard.Pattern

/-- Every character but a line feed. -/
def notLineFeed : CodeSet := ⟨[(0, 9), (11, 0x10ffff)]⟩

/-- The program for any characters but line feeds, as many as there are, at the start of a text. It
is what the pattern is compiled to. -/
def restOfLine : Program :=
  ⟨#[.accept, .save 1 0, .split 3 1, .char notLineFeed 2, .look .textStart 2, .save 0 4], 5, 0⟩

theorem ofText?_restOfLine : ofText? "^(?:.*)" = some restOfLine := rfl

theorem contains_notLineFeed {c : Char} (h : c ≠ '\n') : notLineFeed.contains c.toNat = true := by
  have hcode : c.toNat ≠ 10 := fun heq => h (Char.ext (UInt32.toNat_inj.mp heq))
  have hmax : c.toNat ≤ 0x10ffff := by
    rcases c.valid with hlow | ⟨-, hhigh⟩
    · exact Nat.le_of_lt (Nat.lt_trans hlow (by decide))
    · exact Nat.le_of_lt_succ hhigh
  simp only [CodeSet.contains, notLineFeed, List.any_cons, List.any_nil, Bool.or_false,
    Bool.or_eq_true, Bool.and_eq_true, decide_eq_true_eq]
  omega

/-- The threads at a place, the last one first: one that accepts what was taken up to here, and one
that goes on. The one that goes on was there first, so that more characters are preferred to fewer.
-/
def ahead (index : Nat) : List Thread :=
  [⟨0, #[some 0, some index]⟩, ⟨3, #[some 0, none]⟩]

/-- The threads before the text: nothing has been taken, and that would be accepted. -/
theorem threads_begin (after : Option Char) :
    (addThread restOfLine.code ⟨0, none, after⟩ ⟨restOfLine.start, scan.fresh restOfLine⟩
      (noThreads restOfLine.code)).threads = ahead 0 := by
  have hfresh : scan.fresh restOfLine = #[none, none] := rfl
  rw [hfresh]
  simp [addThread, restOfLine, follow, noThreads, Look.holds, ahead]

/-- One more character is taken. The thread that would accept does so, which is the best match so
far, and the other one becomes the two threads of the next place. -/
theorem advance_ahead {c : Char} (h : c ≠ '\n') (index : Nat) (next : Place) :
    ∃ seen, advance restOfLine.code (some c) next (ahead index).reverse
        (noThreads restOfLine.code) =
      (⟨ahead next.index, seen⟩, some #[some 0, some index]) := by
  simp [advance, ahead, addThread, restOfLine, follow, noThreads, contains_notLineFeed h]

/-- Where the text ends, all of it was taken. -/
theorem advance_end (index : Nat) (next : Place) :
    ∃ left, advance restOfLine.code none next (ahead index).reverse (noThreads restOfLine.code) =
      (left, some #[some 0, some index]) := by
  simp [advance, ahead, restOfLine]

theorem scan_restOfLine (best : Option Slots) (index : Nat) {ts : Threads}
    (hts : ts.threads = ahead index) {text : List Char} (h : '\n' ∉ text) :
    scan restOfLine best index ts text = some #[some 0, some (index + text.length)] := by
  induction text generalizing best index ts with
  | nil =>
      obtain ⟨left, hend⟩ := advance_end index ⟨index + 1, none, none⟩
      unfold scan
      rw [hts, hend]
      rfl
  | cons c rest ih =>
      simp only [List.mem_cons, not_or] at h
      obtain ⟨seen, hmoved⟩ := advance_ahead (Ne.symm h.1) index ⟨index + 1, some c, rest.head?⟩
      unfold scan
      dsimp only
      rw [hts, hmoved]
      simp only [Option.some_or, Option.isSome_some, if_true]
      rw [if_neg (by simp [ahead]), ih _ _ rfl h.2, List.length_cons, Nat.add_assoc,
        Nat.add_comm 1]

/-- **`.*` matches a whole line.** -/
theorem captures?_restOfLine {text : List Char} (h : '\n' ∉ text) :
    captures? restOfLine text = some [some (String.ofList text)] := by
  have hscan : search? restOfLine text = some #[some 0, some text.length] := by
    unfold search?
    rw [scan_restOfLine _ _ (threads_begin _) h, Nat.zero_add]
  unfold captures?
  rw [hscan]
  simp [restOfLine]

end Switchyard.Pattern
