import Mathlib.Algebra.Order.BigOperators.Group.List
import Mathlib.Algebra.Order.Group.Nat
import Switchyard.Proofs.Json.Equality
import Switchyard.Proofs.Supervisor.Batch

/-!
# Switchyard.Proofs.Supervisor.Polling

**The worker of a batch delivers every result once** (`rounds_deliver`), whatever its looks at the
children show and in whatever order the children end.

* `Watched` — a child as the worker sees it, look after look.
* `rounds_eq` — what the worker does: the k-th round looks at the children that were found running
  k times, and nothing else comes before the end of the record.
* `run_looksIn` — what one round does to the batch, child by child, and `run_looksUpTo` — what all
  rounds up to one do to it, by induction on the rounds.

The record's end comes after the last round, so nothing has to be said of what comes after it. How
many rounds are needed is known from the children: one more than the largest number of looks that
find one of them running. With more fuel there are no more rounds, as none has anything to look at.
-/

namespace Switchyard.Supervisor

/-! ### Children as the worker sees them -/

/-- The code that a look records; none while the child runs. -/
def Look.code? : Look → Option Int
  | .ended status => some status.toCode
  | .failed _ => some (-1)
  | .running _ => none

theorem settles_none_eq (l : Look) : settles none l = l.code?.isSome := by
  cases l <;> rfl

/-- A child as the worker sees it: what look after look shows, for as long as the worker goes on
looking, and all that the child writes to its output. Some looks find it running, and the one after
them does not. -/
structure Watched where
  looks : Nat → Look
  stdout : Octets
  /-- How many looks find it running. -/
  last : Nat
  runs : ∀ k < last, (looks k).code? = none
  ends : (looks last).code?.isSome = true

/-- Output that is blank stands for an empty object, other output for the JSON document that it
spells. -/
theorem result?_eq_some_iff {stdout : Octets} {j : Json} :
    result? stdout = some j ↔
      (∀ b ∈ stdout, isBlank b = true) ∧ j = .object [] ∨
        (∃ b ∈ stdout, isBlank b = false) ∧ Json.parse stdout = .ok j := by
  unfold result?
  by_cases hblank : stdout.all isBlank = true
  · rw [if_pos hblank, Option.some.injEq]
    have hall := List.all_eq_true.mp hblank
    constructor
    · rintro rfl
      exact .inl ⟨hall, rfl⟩
    · rintro (⟨-, rfl⟩ | ⟨⟨b, hb, hfalse⟩, -⟩)
      · rfl
      · rw [hall b hb] at hfalse
        cases hfalse
  · rw [if_neg hblank, Json.parse?_eq_some_iff]
    simp only [List.all_eq_true, Classical.not_forall, Bool.not_eq_true] at hblank
    obtain ⟨b, hb, hfalse⟩ := hblank
    constructor
    · intro hparse
      exact .inr ⟨⟨b, hb, hfalse⟩, hparse⟩
    · rintro (⟨hall, -⟩ | ⟨-, hparse⟩)
      · rw [hall b hb] at hfalse
        cases hfalse
      · exact hparse

namespace Watched

/-- The code that is recorded for it. -/
def code (w : Watched) : Int :=
  (w.looks w.last).code?.get w.ends

/-- The result that is due for it: that of its output, if 0 is recorded for it. -/
def result? (w : Watched) : Option Json :=
  if w.code = 0 then Supervisor.result? w.stdout else none

/-- The look at a child that was looked at `k` times before. -/
def sight (time : Nat) : Watched × Nat → Batch.Sight (Watched × Nat)
  | (w, k) => ⟨w.looks k, w.stdout, time, (w, k + 1)⟩

/-- Its recorded end after `k` rounds. -/
def endAfter (k : Nat) (w : Watched) : Option Int :=
  if w.last < k then some w.code else none

variable {w : Watched} {k : Nat}

theorem code?_last (w : Watched) : (w.looks w.last).code? = some w.code :=
  (Option.some_get w.ends).symm

theorem result?_eq_some_iff {j : Json} :
    w.result? = some j ↔ w.code = 0 ∧ Supervisor.result? w.stdout = some j :=
  Option.ite_none_right_eq_some

theorem settles_of_le (h : k ≤ w.last) : settles none (w.looks k) = decide (w.last = k) := by
  rw [settles_none_eq]
  by_cases hlast : w.last = k
  · subst hlast
    simp [w.ends]
  · rw [w.runs k (by omega)]
    simp [hlast]

end Watched

namespace Batch

variable {b : Batch} {k n : Nat} {ws : List Watched}

/-! ### What a round looks at -/

/-- The children that have not ended before round `k`, as the rounds carry them. -/
def pending (k n : Nat) (ws : List Watched) : List (Nat × (Watched × Nat)) :=
  (ws.zipIdx n).filterMap fun (w, i) => if k ≤ w.last then some (i, (w, k)) else none

/-- The looks of round `k`. -/
def looksIn (k n : Nat) (ws : List Watched) : List BatchEvent :=
  (ws.zipIdx n).filterMap fun (w, i) =>
    if k ≤ w.last then some (.look i (w.looks k) w.stdout) else none

/-- The looks of all rounds before round `k`. -/
def looksUpTo (k : Nat) (ws : List Watched) : List BatchEvent :=
  (List.range k).flatMap fun k => looksIn k 0 ws

theorem pending_cons_of_le {w : Watched} (h : k ≤ w.last) :
    pending k n (w :: ws) = (n, (w, k)) :: pending k (n + 1) ws := by
  simp [pending, List.zipIdx_cons, h]

theorem pending_cons_of_lt {w : Watched} (h : w.last < k) :
    pending k n (w :: ws) = pending k (n + 1) ws := by
  simp [pending, List.zipIdx_cons, Nat.not_le.mpr h]

theorem looksIn_cons_of_le {w : Watched} (h : k ≤ w.last) :
    looksIn k n (w :: ws) = .look n (w.looks k) w.stdout :: looksIn k (n + 1) ws := by
  simp [looksIn, List.zipIdx_cons, h]

theorem looksIn_cons_of_lt {w : Watched} (h : w.last < k) :
    looksIn k n (w :: ws) = looksIn k (n + 1) ws := by
  simp [looksIn, List.zipIdx_cons, Nat.not_le.mpr h]

/-- One round looks at the children that have not ended, and leaves those that go on running. By
induction on the children, for any number of the first one, since they keep their numbers while
those that have ended drop out. -/
theorem round_pending (k n : Nat) (ws : List Watched) (time : Nat) :
    (round Watched.sight time (pending k n ws)).1.map (·.2) = looksIn k n ws ∧
      (round Watched.sight time (pending k n ws)).2.2 = pending (k + 1) n ws := by
  induction ws generalizing n time with
  | nil => exact ⟨rfl, rfl⟩
  | cons w ws ih =>
      obtain ⟨hevents, hleft⟩ := ih (n + 1) time
      by_cases hle : k ≤ w.last
      · rw [pending_cons_of_le hle, looksIn_cons_of_le hle, round]
        refine ⟨by rw [List.map_cons, ← hevents]; rfl, ?_⟩
        have hsettles : settles none (Watched.sight time (w, k)).look = decide (w.last = k) :=
          Watched.settles_of_le hle
        simp only [hsettles]
        by_cases hlast : w.last = k
        · rw [pending_cons_of_lt (by omega), ← hleft, if_pos (by simpa using hlast)]
          rfl
        · rw [pending_cons_of_le (by omega), ← hleft, if_neg (by simpa using hlast)]
          rfl
      · have hlt : w.last < k := Nat.not_le.mp hle
        rw [pending_cons_of_lt hlt, looksIn_cons_of_lt hlt, pending_cons_of_lt (by omega)]
        exact ⟨hevents, hleft⟩

theorem pending_eq_nil_iff : pending k n ws = [] ↔ ∀ w ∈ ws, w.last < k := by
  induction ws generalizing n with
  | nil => simp [pending]
  | cons w ws ih =>
      by_cases hle : k ≤ w.last
      · simp [pending_cons_of_le hle, Nat.not_lt.mpr hle]
      · have hlt : w.last < k := Nat.not_le.mp hle
        rw [pending_cons_of_lt hlt, ih, List.forall_mem_cons]
        exact (and_iff_right hlt).symm

/-- Nobody is looked at when all have ended. -/
theorem looksIn_eq_nil (h : ∀ w ∈ ws, w.last < k) : looksIn k n ws = [] := by
  induction ws generalizing n with
  | nil => rfl
  | cons w ws ih =>
      obtain ⟨hlt, hws⟩ := List.forall_mem_cons.mp h
      rw [looksIn_cons_of_lt hlt, ih hws]

/-- What the worker does: round after round, then the end of the record. By induction on the fuel; a
round that leaves nobody is the last one, and the rounds for which there is fuel left would be
empty. -/
theorem rounds_pending (fuel k time : Nat) (ws : List Watched) :
    (rounds Watched.sight fuel time (pending k 0 ws)).map (·.2) =
      ((List.range' k fuel).flatMap fun k => looksIn k 0 ws) ++ [.finish, .report] := by
  induction fuel generalizing k time with
  | zero => rfl
  | succ fuel ih =>
      obtain ⟨hevents, hleft⟩ := round_pending k 0 ws time
      rw [rounds]
      simp only [hleft]
      rw [List.range'_succ, List.flatMap_cons, ← hevents]
      by_cases hempty : pending (k + 1) 0 ws = []
      · -- No child is left for the rounds that could still come.
        have hrest : ((List.range' (k + 1) fuel).flatMap fun k => looksIn k 0 ws) = [] := by
          rw [List.flatMap_eq_nil_iff]
          intro j hj
          have hkj := (List.mem_range'_1.mp hj).1
          exact looksIn_eq_nil fun w hw =>
            Nat.lt_of_lt_of_le (pending_eq_nil_iff.mp hempty w hw) hkj
        rw [hrest, hempty, List.append_nil]
        simp
      · rw [if_neg (by simpa using hempty), List.map_append, ih, List.append_assoc]

theorem zip_range' (n : Nat) (ws : List Watched) :
    (List.range' n ws.length).zip (ws.map fun w => (w, 0)) = pending 0 n ws := by
  induction ws generalizing n with
  | nil => rfl
  | cons w ws ih =>
      rw [List.length_cons, List.range'_succ, List.map_cons, List.zip_cons_cons, ih,
        pending_cons_of_le (Nat.zero_le _)]

/-- What the worker does with children that it has not looked at. -/
theorem rounds_eq (fuel : Nat) (ws : List Watched) :
    (rounds Watched.sight fuel 0 (numbered (ws.map fun w => (w, 0)))).map (·.2) =
      looksUpTo fuel ws ++ [.finish, .report] := by
  have hnumbered : numbered (ws.map fun w => (w, 0)) = pending 0 0 ws := by
    rw [numbered, List.length_map, List.range_eq_range', zip_range']
  rw [hnumbered, rounds_pending, looksUpTo, List.range_eq_range']

/-! ### How often a child is looked at -/

/-- What a look at this child shows. -/
def lookOf (child : Nat) : BatchEvent → Option Look
  | .look i l _ => if i = child then some l else none
  | _ => none

theorem lookOf_looksIn_of_lt {child : Nat} (h : child < n) :
    (looksIn k n ws).filterMap (lookOf child) = [] := by
  induction ws generalizing n with
  | nil => rfl
  | cons w ws ih =>
      by_cases hle : k ≤ w.last
      · rw [looksIn_cons_of_le hle, List.filterMap_cons, ih (by omega), lookOf, if_neg (by omega)]
      · rw [looksIn_cons_of_lt (Nat.not_le.mp hle), ih (by omega)]

theorem lookOf_looksIn {i : Nat} {w : Watched} (h : ws[i]? = some w) :
    (looksIn k n ws).filterMap (lookOf (n + i)) = if k ≤ w.last then [w.looks k] else [] := by
  induction ws generalizing n i with
  | nil => simp at h
  | cons v ws ih =>
      cases i with
      | zero =>
          obtain rfl : v = w := by simpa using h
          have hothers : (looksIn k (n + 1) ws).filterMap (lookOf n) = [] :=
            lookOf_looksIn_of_lt (Nat.lt_succ_self n)
          by_cases hle : k ≤ v.last
          · rw [looksIn_cons_of_le hle, if_pos hle, Nat.add_zero, List.filterMap_cons, hothers,
              lookOf, if_pos rfl]
          · rw [looksIn_cons_of_lt (Nat.not_le.mp hle), if_neg hle, Nat.add_zero, hothers]
      | succ i =>
          have hrest := ih (n := n + 1) (by simpa using h)
          rw [Nat.add_right_comm, Nat.add_assoc] at hrest
          by_cases hle : k ≤ v.last
          · rw [looksIn_cons_of_le hle, List.filterMap_cons, hrest, lookOf, if_neg (by omega)]
          · rw [looksIn_cons_of_lt (Nat.not_le.mp hle), hrest]

/-- A child is looked at until a look does not find it running, and not again. By induction on the
rounds, to each of which it contributes one look or none. -/
theorem lookOf_looksUpTo {i : Nat} {w : Watched} (h : ws[i]? = some w) (k : Nat) :
    (looksUpTo k ws).filterMap (lookOf i) = (List.range (min k (w.last + 1))).map w.looks := by
  induction k with
  | zero => simp [looksUpTo]
  | succ k ih =>
      have hround := lookOf_looksIn (k := k) (n := 0) h
      rw [Nat.zero_add] at hround
      have hsucc : looksUpTo (k + 1) ws = looksUpTo k ws ++ looksIn k 0 ws := by
        rw [looksUpTo, List.range_succ, List.flatMap_append, List.flatMap_singleton]
        rfl
      rw [hsucc, List.filterMap_append, ih, hround]
      by_cases hle : k ≤ w.last
      · rw [if_pos hle, Nat.min_eq_left (by omega), Nat.min_eq_left (by omega), List.range_succ,
          List.map_append]
        rfl
      · rw [if_neg hle, Nat.min_eq_right (by omega), Nat.min_eq_right (by omega), List.append_nil]

/-! ### What a look does -/

theorem settle_of_watches (h : b.watches = true) : b.settle = b := by
  cases b with
  | mk react record ends results adds stage stored reports =>
  simp only [watches, Bool.and_eq_true, List.isEmpty_iff] at h
  obtain ⟨-, rfl⟩ := h
  rfl

/-- A look at a child that runs changes nothing. -/
theorem stepThrough_look_running {i : Nat} {l : Look} (stdout : Octets) (h : b.watches = true)
    (hi : b.ends[i]? = some none) (hl : l.code? = none) :
    b.stepThrough (.look i l stdout) = some b := by
  cases l with
  | running time =>
      have hstep : b.step (.look i (.running time) stdout) = some b := if_pos ⟨h, hi⟩
      rw [stepThrough, hstep, Option.map_some, settle_of_watches h]
  | ended status => cases hl
  | failed e => cases hl

/-- A look that ends a child records its code, and delivers the result of its output if this is 0. A
wait that failed is recorded as -1, so nothing is delivered for it. -/
theorem stepThrough_look_ended {i : Nat} {l : Look} {code : Int} (stdout : Octets)
    (h : b.watches = true) (hi : b.ends[i]? = some none) (hl : l.code? = some code) :
    ∃ c, b.stepThrough (.look i l stdout) = some c ∧ c.watches = true ∧
      c.ends = b.ends.set i (some code) ∧
      c.results = b.results ++
        ((if code = 0 then result? stdout else none).map fun j => (i, j)).toList := by
  have hrunning : b.stage = .running := by simp_all [watches]
  cases l with
  | running time => cases hl
  | failed e =>
      cases hl
      have hstep : b.step (.look i (.failed e) stdout) =
          some { b with ends := b.ends.set i (some (-1)) } := if_pos ⟨h, hi⟩
      refine ⟨_, by rw [stepThrough, hstep, Option.map_some], ?_, rfl, ?_⟩
      · simp [watches, settle, hrunning]
      · simp [settle]
  | ended status =>
      cases hl
      have hstep : b.step (.look i (.ended status) stdout) = some (b.note i status.toCode stdout) :=
        if_pos ⟨h, hi⟩
      refine ⟨_, by rw [stepThrough, hstep, Option.map_some], ?_, ?_, ?_⟩
      · simp [watches, settle, hrunning]
      · simp only [settle, note]
        grind [deliver]
      · simp only [settle, note]
        grind [deliver]

/-! ### What the rounds do -/

/-- The results of those children for which `ended` holds, under the children's numbers. -/
def due (ended : Watched → Bool) (n : Nat) (ws : List Watched) : List (Nat × Json) :=
  (ws.zipIdx n).filterMap fun (w, i) => if ended w then w.result?.map fun j => (i, j) else none

theorem due_nil (ended : Watched → Bool) (n : Nat) : due ended n [] = [] := rfl

theorem due_cons_of_pos {ended : Watched → Bool} {w : Watched} (h : ended w = true) :
    due ended n (w :: ws) = (w.result?.map fun j => (n, j)).toList ++ due ended (n + 1) ws := by
  unfold due
  rw [List.zipIdx_cons, List.filterMap_cons]
  dsimp only
  rw [if_pos h]
  cases w.result? <;> rfl

theorem due_cons_of_neg {ended : Watched → Bool} {w : Watched} (h : ended w = false) :
    due ended n (w :: ws) = due ended (n + 1) ws := by
  simp [due, List.zipIdx_cons, h]

/-- What a round does to one child: it is looked at, unless its end is recorded. There are three
cases: it has ended before, it ends now, it goes on running. -/
theorem run_look (k i : Nat) (w : Watched) (hb : b.watches = true)
    (hi : b.ends[i]? = some (w.endAfter k)) :
    ∃ c, Run stepThrough b (looksIn k i [w]) c ∧ c.watches = true ∧
      c.ends = b.ends.set i (w.endAfter (k + 1)) ∧
      c.results = b.results ++ due (fun w => w.last = k) i [w] := by
  have hsame : b.ends.set i (w.endAfter k) = b.ends := by
    obtain ⟨hlt, hget⟩ := List.getElem?_eq_some_iff.mp hi
    rw [← hget, List.set_getElem_self]
  by_cases hlt : w.last < k
  · -- Its end was recorded in an earlier round.
    have hend : w.endAfter (k + 1) = w.endAfter k := by
      rw [Watched.endAfter, Watched.endAfter, if_pos hlt, if_pos (by omega)]
    rw [looksIn_cons_of_lt hlt, due_cons_of_neg (by simp; omega), hend, hsame]
    exact ⟨b, .rest, hb, rfl, (List.append_nil _).symm⟩
  · have hnone : w.endAfter k = none := if_neg hlt
    rw [hnone] at hi hsame
    rw [looksIn_cons_of_le (Nat.not_lt.mp hlt)]
    by_cases hlast : w.last = k
    · -- This look ends it.
      have hcode : (w.looks k).code? = some w.code := hlast ▸ w.code?_last
      have hend : w.endAfter (k + 1) = some w.code := if_pos (by omega)
      obtain ⟨c, hstep, hc, hends, hresults⟩ := stepThrough_look_ended w.stdout hb hi hcode
      rw [due_cons_of_pos (by simpa using hlast), hend]
      rw [due_nil, List.append_nil]
      exact ⟨c, .single hstep, hc, hends, hresults⟩
    · -- It goes on running.
      have hcode : (w.looks k).code? = none := w.runs k (by omega)
      have hend : w.endAfter (k + 1) = none := if_neg (by omega)
      rw [due_cons_of_neg (by simpa using hlast), hend, hsame]
      exact ⟨b, .single (stepThrough_look_running w.stdout hb hi hcode), hb, rfl,
        (List.append_nil _).symm⟩

theorem looksIn_cons (k n : Nat) (w : Watched) (ws : List Watched) :
    looksIn k n (w :: ws) = looksIn k n [w] ++ looksIn k (n + 1) ws := by
  by_cases hle : k ≤ w.last
  · rw [looksIn_cons_of_le hle, looksIn_cons_of_le hle]
    rfl
  · rw [looksIn_cons_of_lt (Nat.not_le.mp hle), looksIn_cons_of_lt (Nat.not_le.mp hle)]
    rfl

theorem due_cons (ended : Watched → Bool) (n : Nat) (w : Watched) (ws : List Watched) :
    due ended n (w :: ws) = due ended n [w] ++ due ended (n + 1) ws := by
  cases h : ended w with
  | true =>
      rw [due_cons_of_pos h, due_cons_of_pos h, List.append_assoc]
      rfl
  | false =>
      rw [due_cons_of_neg h, due_cons_of_neg h]
      rfl

/-- One round, child by child: those of `done` were looked at, the others were not yet. By induction
on the others, each of which joins `done` in its turn. -/
theorem run_looksIn (k : Nat) (done ws : List Watched) (hb : b.watches = true)
    (hends : b.ends = done.map (Watched.endAfter (k + 1)) ++ ws.map (Watched.endAfter k)) :
    ∃ c, Run stepThrough b (looksIn k done.length ws) c ∧ c.watches = true ∧
      c.ends = (done ++ ws).map (Watched.endAfter (k + 1)) ∧
      c.results = b.results ++ due (fun w => w.last = k) done.length ws := by
  induction ws generalizing done b with
  | nil =>
      refine ⟨b, .rest, hb, ?_, ?_⟩
      · rw [hends, List.map_nil, List.append_nil, List.append_nil]
      · exact (List.append_nil _).symm
  | cons w ws ih =>
      have hi : b.ends[done.length]? = some (w.endAfter k) := by
        rw [hends]
        simp
      obtain ⟨u, hlook, hu, huends, huresults⟩ := run_look k done.length w hb hi
      have hnext : u.ends = (done ++ [w]).map (Watched.endAfter (k + 1)) ++
          ws.map (Watched.endAfter k) := by
        rw [huends, hends, List.map_cons, List.set_append_right _ _ (by simp), List.length_map,
          Nat.sub_self, List.set_cons_zero, List.map_append, List.append_cons]
        rfl
      obtain ⟨c, hrun, hc, hcends, hcresults⟩ := ih (done ++ [w]) hu hnext
      rw [List.length_append, List.length_singleton] at hrun hcresults
      refine ⟨c, ?_, hc, ?_, ?_⟩
      · rw [looksIn_cons]
        exact hlook.trans hrun
      · rw [hcends, List.append_assoc]
        rfl
      · rw [hcresults, huresults, due_cons _ _ w ws, List.append_assoc]

/-- What a round adds to the results makes up, with those before it, the results up to it. Up to
their order: results are delivered round by round, and `due` has them child by child. -/
theorem perm_due_append (k n : Nat) (ws : List Watched) :
    (due (fun w => w.last < k) n ws ++ due (fun w => w.last = k) n ws).Perm
      (due (fun w => w.last < k + 1) n ws) := by
  induction ws generalizing n with
  | nil => exact .refl _
  | cons w ws ih =>
      by_cases hlt : w.last < k
      · rw [due_cons_of_pos (by simpa using hlt), due_cons_of_neg (by simp; omega),
          due_cons_of_pos (by simp; omega), List.append_assoc]
        exact (ih (n + 1)).append_left _
      · rw [due_cons_of_neg (by simpa using hlt)]
        by_cases hlast : w.last = k
        · rw [due_cons_of_pos (by simpa using hlast), due_cons_of_pos (by simp; omega)]
          refine List.perm_append_comm_assoc .. |>.trans ?_
          exact (ih (n + 1)).append_left _
        · rw [due_cons_of_neg (by simpa using hlast), due_cons_of_neg (by simp; omega)]
          exact ih (n + 1)

/-- The children were started, and none of them was looked at. -/
structure Fresh (n : Nat) (b : Batch) : Prop where
  watches : b.watches = true
  ends : b.ends = List.replicate n none
  results : b.results = []

/-- All rounds before round `k`: the ends of the children that were seen to end are recorded, and
their results delivered. -/
theorem run_looksUpTo (hb : b.Fresh ws.length) (k : Nat) :
    ∃ c, Run stepThrough b (looksUpTo k ws) c ∧ c.watches = true ∧
      c.ends = ws.map (Watched.endAfter k) ∧
      c.results.Perm (due (fun w => w.last < k) 0 ws) := by
  induction k with
  | zero =>
      refine ⟨b, .rest, hb.watches, ?_, ?_⟩
      · rw [hb.ends, ← List.map_const', List.map_congr_left]
        intro w _
        rfl
      · have hnone : due (fun w => w.last < 0) 0 ws = [] := by simp [due]
        rw [hnone, hb.results]
  | succ k ih =>
      obtain ⟨u, hrun, hwatches, hends, hresults⟩ := ih
      obtain ⟨c, hround, hc, hcends, hcresults⟩ := run_looksIn k [] ws hwatches hends
      refine ⟨c, ?_, hc, hcends, ?_⟩
      · rw [looksUpTo, List.range_succ, List.flatMap_append, List.flatMap_singleton]
        exact hrun.trans hround
      · rw [hcresults]
        exact (hresults.append_right _).trans (perm_due_append k 0 ws)

/-- What becomes of a batch when its worker looks at its children, has them all ended, and then
finishes and reports: `b`, `mid` and `last` are the batch before the looks, after them, and at the
end. -/
structure Supervised (ws : List Watched) (looks : List BatchEvent) (b mid last : Batch) :
    Prop where
  run : Run stepThrough b looks mid
  /-- Before the end of the record the worker does nothing but look. -/
  onlyLooks : ∀ e ∈ looks, ∃ child l stdout, e = .look child l stdout
  /-- A child is looked at until a look does not find it running, and not again. -/
  looked : ∀ child w, ws[child]? = some w →
    looks.filterMap (lookOf child) = (List.range (w.last + 1)).map w.looks
  /-- The results that were delivered, each under its child's number: for the children for which 0
  is recorded and whose output is blank or one JSON document, and for no other child. -/
  results : ∀ child j, (child, j) ∈ mid.results ↔
    ∃ w, ws[child]? = some w ∧ w.code = 0 ∧
      ((∀ b ∈ w.stdout, isBlank b = true) ∧ j = .object [] ∨
        (∃ b ∈ w.stdout, isBlank b = false) ∧ Json.parse w.stdout = .ok j)
  /-- No child had its result delivered twice. -/
  once : (mid.results.map (·.1)).Nodup
  /-- All ends are recorded before the record is finished. -/
  ends : mid.ends = ws.map fun w => some w.code
  finish : Run stepThrough mid [.finish, .report] last
  /-- Nothing is delivered then. -/
  resultsAfter : last.results = mid.results
  record : last.record = mid.record.finish mid.retval

/-- Ends the batch whose children have all ended. -/
theorem run_finish (hb : b.watches = true) (hends : b.ends.all Option.isSome = true) :
    ∃ c, Run stepThrough b [.finish, .report] c ∧ c.results = b.results ∧
      c.record = b.record.finish b.retval := by
  have hadds : b.adds = [] := by
    simp only [watches, Bool.and_eq_true, List.isEmpty_iff] at hb
    exact hb.2
  have hfinish : b.stepThrough .finish =
      some { b with stage := .finished, record := b.record.finish b.retval } := by
    have hstep : b.step .finish =
        some { b with stage := .finished, record := b.record.finish b.retval } :=
      if_pos ⟨hb, hends⟩
    rw [stepThrough, hstep, Option.map_some, settle]
    simp only [hadds]
    rfl
  refine ⟨_, (Run.single hfinish).step (show stepThrough _ .report = some _ from rfl), rfl, ?_⟩
  simp only [settle, hadds]
  rfl

/-! ### What is due in the end -/

theorem due_of_forall {ended : Watched → Bool} (h : ∀ w ∈ ws, ended w = true) (n : Nat) :
    due ended n ws = due (fun _ => true) n ws := by
  refine List.filterMap_congr ?_
  rintro ⟨w, i⟩ hw
  dsimp only
  rw [h w (List.fst_mem_of_mem_zipIdx hw)]

theorem mem_due_iff {child : Nat} {j : Json} :
    (child, j) ∈ due (fun _ => true) 0 ws ↔ ∃ w, ws[child]? = some w ∧ w.result? = some j := by
  unfold due
  constructor
  · intro h
    obtain ⟨⟨w, i⟩, hw, hj⟩ := List.mem_filterMap.mp h
    obtain ⟨j', hj', ⟨⟩⟩ := Option.map_eq_some_iff.mp hj
    exact ⟨w, List.mk_mem_zipIdx_iff_getElem?.mp hw, hj'⟩
  · rintro ⟨w, hw, hj⟩
    refine List.mem_filterMap.mpr ⟨(w, child), List.mk_mem_zipIdx_iff_getElem?.mpr hw, ?_⟩
    simp [hj]

theorem nodup_due (n : Nat) (ws : List Watched) :
    ((due (fun _ => true) n ws).map (·.1)).Nodup := by
  -- The numbers stand in their order, without those that have no result.
  have hsub : ((due (fun _ => true) n ws).map (·.1)).Sublist (List.range' n ws.length) := by
    induction ws generalizing n with
    | nil => exact .slnil
    | cons w ws ih =>
        rw [due_cons_of_pos rfl, List.map_append, List.length_cons, List.range'_succ]
        cases w.result? with
        | none => exact (ih (n + 1)).cons n
        | some j => exact (ih (n + 1)).cons_cons n
  exact hsub.nodup List.nodup_range'

/-- **Every result is delivered once.** Let the worker of a batch look at any number of children,
which end in any order after any number of looks, with any status or a wait that fails. However many
rounds it may take beyond those that it needs, it supervises them: a child is looked at until its
end is recorded and not again; of the children for which 0 is recorded, each whose output is blank
or one JSON document has its result delivered once, under its own number, and no other child has;
and all this comes before the only end of the record, for which every child's end is recorded. -/
theorem rounds_deliver (hb : b.Fresh ws.length) :
    ∃ n, ∀ fuel ≥ n, ∃ looks mid last,
      (rounds Watched.sight fuel 0 (numbered (ws.map fun w => (w, 0)))).map (·.2) =
        looks ++ [.finish, .report] ∧ Supervised ws looks b mid last := by
  refine ⟨(ws.map (·.last)).sum + 1, ?_⟩
  intro fuel hfuel
  have hlast : ∀ w ∈ ws, w.last < fuel := by
    intro w hw
    have hle : w.last ≤ (ws.map (·.last)).sum := List.le_sum_of_mem (List.mem_map_of_mem hw)
    omega
  obtain ⟨mid, hrun, hwatches, hends, hresults⟩ := run_looksUpTo hb fuel
  have hcodes : mid.ends = ws.map fun w => some w.code := by
    rw [hends]
    exact List.map_congr_left fun w hw => if_pos (hlast w hw)
  obtain ⟨last, hfinish, hsame, hrecord⟩ := run_finish hwatches (by simp [hcodes])
  refine ⟨looksUpTo fuel ws, mid, last, rounds_eq fuel ws, ?_⟩
  rw [due_of_forall fun w hw => by simpa using hlast w hw] at hresults
  refine ⟨hrun, ?_, ?_, ?_, ?_, hcodes, hfinish, hsame, hrecord⟩
  · intro e he
    obtain ⟨k, -, he⟩ := List.mem_flatMap.mp he
    obtain ⟨⟨w, i⟩, -, he⟩ := List.mem_filterMap.mp he
    obtain ⟨-, ⟨⟩⟩ := Option.ite_none_right_eq_some.mp he
    exact ⟨i, w.looks k, w.stdout, rfl⟩
  · intro child w hw
    have hlt := hlast w (List.mem_of_getElem? hw)
    rw [lookOf_looksUpTo hw, Nat.min_eq_right (by omega)]
  · intro child j
    rw [hresults.mem_iff, mem_due_iff]
    simp only [Watched.result?_eq_some_iff, result?_eq_some_iff]
  · exact (hresults.map (·.1)).nodup_iff.mpr (nodup_due 0 ws)

/-- A batch whose children were just started. -/
theorem fresh_of_spawn {id : String} {react : Nat → Json → Record → List Json}
    (h : (start id react).step (.spawn (.ok n)) = some b) : b.Fresh n := by
  cases h
  exact ⟨rfl, rfl, rfl⟩

/-- A child that exits with 0 before the first look and writes a blank. -/
def quick : Watched :=
  ⟨fun _ => .ended (.code 0), [32], 0, nofun, rfl⟩

/-- A child that runs for two looks, exits with 0 and writes an empty array. -/
def slow : Watched :=
  ⟨fun k => if k < 2 then .running k else .ended (.code 0), [91, 93], 2,
    fun k hk => by rw [if_pos hk]; rfl, rfl⟩

/-- A child that cannot be waited for. -/
def lost : Watched :=
  ⟨fun _ => .failed (.os 10), [91, 93], 0, nofun, rfl⟩

theorem rounds_deliver_quick_slow_lost :
    ∃ n, ∀ fuel ≥ n, ∃ looks mid last,
      (rounds Watched.sight fuel 0 (numbered [(slow, 0), (lost, 0), (quick, 0)])).map (·.2) =
        looks ++ [.finish, .report] ∧
      Supervised [slow, lost, quick] looks
        ((start "0" fun _ j _ => [j]).steps [.spawn (.ok 3)]) mid last ∧
      (0, .array []) ∈ mid.results ∧ (2, .object []) ∈ mid.results ∧
      (∀ j, (1, j) ∉ mid.results) ∧
      looks.filterMap (lookOf 0) = [.running 0, .running 1, .ended (.code 0)] ∧
      looks.filterMap (lookOf 1) = [.failed (.os 10)] := by
  have hfresh : ((start "0" fun _ j _ => [j]).steps [.spawn (.ok 3)]).Fresh
      [slow, lost, quick].length := fresh_of_spawn rfl
  obtain ⟨n, hn⟩ := rounds_deliver hfresh
  refine ⟨n, ?_⟩
  intro fuel hfuel
  obtain ⟨looks, mid, last, hevents, h⟩ := hn fuel hfuel
  refine ⟨looks, mid, last, hevents, h, ?_, ?_, ?_, h.looked 0 slow rfl, h.looked 1 lost rfl⟩
  · exact (h.results 0 _).mpr ⟨slow, rfl, rfl, .inr ⟨⟨91, List.mem_cons_self, rfl⟩, rfl⟩⟩
  · exact (h.results 2 _).mpr ⟨quick, rfl, rfl, .inl ⟨List.forall_mem_singleton.mpr rfl, rfl⟩⟩
  · intro j hj
    obtain ⟨w, ⟨⟩, hcode, -⟩ := (h.results 1 j).mp hj
    exact absurd hcode (by decide)

end Batch
end Switchyard.Supervisor
