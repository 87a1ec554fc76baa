import Mathlib.Data.List.Basic
import Switchyard.Supervisor.Deadline

/-!
# Switchyard.Proofs.Supervisor.Deadline

**Who waits for a child with a time limit kills it at most once, and only when it was just seen to
run and its time to have passed** (`wait_keeps_limit`).

A round in which the child runs and its time has not passed is `Quiet`; any other is the last one
and goes in one of three ways (`Last`). So a whole wait is some quiet rounds and perhaps a last one
(`rounds_cases`, `wait_course`), and what is done in a quiet round is `Idle`: it neither kills nor
gets to know of an end. Every promise in `KeepsLimit` is read off this. None of them needs a clock
that never goes back.

For a program whose conduct is known the loop always comes to an end (`waitFor_exit`).
-/

namespace Switchyard.Supervisor

/-! ### What a list of acts tells -/

namespace Act

/-- What a look has shown. -/
def look? : Act → Option (Except IoError (Option ExitStatus))
  | look result => some result
  | _ => none

/-- What the clock has shown. -/
def clock? : Act → Option Nat
  | clock time => some time
  | _ => none

/-- The status of the child, from a look or from waiting for its end. -/
def status? : Act → Option ExitStatus
  | look (.ok status) => status
  | reap (.ok status) => some status
  | _ => none

/-- The tries to kill. -/
def tries : Act → List KillTry
  | kill tries => tries
  | _ => []

/-- What a waiting loop does as long as it has to go on: to read the clock, to find the child
running, and to pause. -/
inductive Idle : Act → Prop where
  | clock (time : Nat) : Idle (.clock time)
  | look : Idle (.look (.ok none))
  | pause : Idle .pause

variable {acts : List Act} {act : Act}

theorem Idle.isKill_eq (h : act.Idle) : act.isKill = false := by
  cases h <;> rfl

theorem Idle.tries_eq (h : act.Idle) : act.tries = [] := by
  cases h <;> rfl

theorem Idle.status?_eq (h : act.Idle) : act.status? = none := by
  cases h <;> rfl

theorem Idle.not_kill {tries : List KillTry} : ¬(Act.kill tries).Idle := nofun

theorem countP_isKill_of_idle (h : ∀ act ∈ acts, act.Idle) : acts.countP isKill = 0 :=
  List.countP_eq_zero.mpr fun act hact => by simp [(h act hact).isKill_eq]

theorem flatMap_tries_of_idle (h : ∀ act ∈ acts, act.Idle) : acts.flatMap tries = [] :=
  List.flatMap_eq_nil_iff.mpr fun act hact => (h act hact).tries_eq

theorem filterMap_status?_of_idle (h : ∀ act ∈ acts, act.Idle) : acts.filterMap status? = [] :=
  List.filterMap_eq_nil_iff.mpr fun act hact => (h act hact).status?_eq

end Act

namespace Ending

variable {result : Except IoError ExitStatus} {exit : Exit} {e : IoError}

theorem ofReap_eq_exited (h : ofReap result = .exited exit) :
    ∃ status, result = .ok status ∧ exit = ⟨status.toCode, true⟩ := by
  cases result with
  | ok status => exact ⟨status, rfl, (Ending.exited.inj h).symm⟩
  | error e => cases h

theorem ofReap_eq_failed (h : ofReap result = .failed e) : result = .error e := by
  cases result with
  | ok status => cases h
  | error e => exact congrArg Except.error (Ending.failed.inj h)

theorem ofReap_ne_crashed : ofReap result ≠ .crashed := by
  cases result <;> nofun

end Ending

namespace Answers

variable {a : Answers} {deadline limit : Option Nat} {count n k : Nat} {w : Waiting}

/-! ### Killing -/

/-- At most one try kills. -/
theorem countP_hits_kill_le (a : Answers) : a.kill.countP KillTry.hits ≤ 1 := by
  unfold kill
  split
  · cases a.killGroup with
    | ok u => exact List.countP_le_length
    | error e =>
        rw [List.countP_cons_of_neg (by simp [KillTry.hits, Except.isOk, Except.toBool])]
        exact List.countP_le_length
  · exact List.countP_le_length

/-! ### Rounds -/

/-- The child runs in the `n`-th round, and its time has not passed after that was seen. The clock
is read after the look, and its first reading was for the deadline; hence the shift by one. -/
def Quiet (a : Answers) (deadline : Option Nat) (n : Nat) : Prop :=
  a.look n = .ok none ∧ ∀ time ∈ deadline, a.clock (n + 1) < time

/-- What the loop does in a quiet round. -/
def idling (a : Answers) (deadline : Option Nat) (n : Nat) : List Act :=
  .look (.ok none) :: a.reading deadline (n + 1) ++ [.pause]

/-- The ways in which the last round can go: the child has ended, the look at it fails, or its time
has passed and it is killed and waited for. -/
inductive Last (a : Answers) (deadline : Option Nat) (n : Nat) : Waiting → Prop where
  | ended (status : ExitStatus) (h : a.look n = .ok (some status)) :
      Last a deadline n
        ⟨[.look (.ok (some status))], some (.exited ⟨status.toCode, false⟩)⟩
  | failed (e : IoError) (h : a.look n = .error e) :
      Last a deadline n ⟨[.look (.error e)], some (.failed e)⟩
  | killed (time : Nat) (hdeadline : deadline = some time) (h : a.look n = .ok none)
      (hpast : time ≤ a.clock (n + 1)) :
      Last a deadline n
        ⟨[.look (.ok none), .clock (a.clock (n + 1)), .kill a.kill, .reap a.reap],
          some (.ofReap a.reap)⟩

theorem expired_eq_false_iff {time : Nat} :
    expired deadline time = false ↔ ∀ d ∈ deadline, time < d := by
  cases deadline <;> simp [expired]

/-- A round is quiet or the last one. -/
theorem round_cases (a : Answers) (deadline : Option Nat) (n : Nat) :
    a.Quiet deadline n ∧ a.round deadline n = ⟨a.idling deadline n, none⟩ ∨
      a.Last deadline n (a.round deadline n) := by
  unfold round
  cases hlook : a.look n with
  | error e => exact .inr (.failed e hlook)
  | ok status? =>
      cases status? with
      | some status => exact .inr (.ended status hlook)
      | none =>
          cases hpast : expired deadline (a.clock (n + 1)) with
          | false => exact .inl ⟨⟨hlook, expired_eq_false_iff.mp hpast⟩, rfl⟩
          | true =>
              cases deadline with
              | none => cases hpast
              | some time => exact .inr (.killed time rfl hlook (by simpa [expired] using hpast))

theorem Last.ending_isSome (h : a.Last deadline n w) : w.ending.isSome := by
  cases h <;> rfl

theorem Last.not_quiet (h : a.Last deadline n w) : ¬a.Quiet deadline n := by
  intro hquiet
  cases h with
  | ended status h => cases h.symm.trans hquiet.1
  | failed e h => cases h.symm.trans hquiet.1
  | killed time hdeadline h hpast => exact absurd (hquiet.2 time hdeadline) (Nat.not_lt.mpr hpast)

/-- What the loop does in so many quiet rounds from the `n`-th on. -/
def idlingAll (a : Answers) (deadline : Option Nat) (n count : Nat) : List Act :=
  (List.range' n count).flatMap (a.idling deadline)

/-- **Rounds are quiet, all or up to the last one.** By induction on the number of rounds, for any
number of the first one. -/
theorem rounds_cases (a : Answers) (deadline : Option Nat) (count n : Nat) :
    (∀ j < count, a.Quiet deadline (n + j)) ∧
        a.rounds deadline count n = ⟨a.idlingAll deadline n count, none⟩ ∨
      ∃ k < count, (∀ j < k, a.Quiet deadline (n + j)) ∧ ∃ w, a.Last deadline (n + k) w ∧
        a.rounds deadline count n = ⟨a.idlingAll deadline n k ++ w.acts, w.ending⟩ := by
  induction count generalizing n with
  | zero => exact .inl ⟨nofun, rfl⟩
  | succ count ih =>
      have hshift {m : Nat} (hquiet : a.Quiet deadline n)
          (hlater : ∀ j < m, a.Quiet deadline (n + 1 + j)) :
          ∀ j < m + 1, a.Quiet deadline (n + j) := by
        intro j hj
        cases j with
        | zero => exact hquiet
        | succ j => exact Nat.succ_add_eq_add_succ n j ▸ hlater j (Nat.lt_of_succ_lt_succ hj)
      unfold rounds
      rcases a.round_cases deadline n with ⟨hquiet, hround⟩ | hlast
      · rw [hround]
        rcases ih (n + 1) with ⟨hall, hrounds⟩ | ⟨k, hk, hall, w, hlast, hrounds⟩
        · rw [hrounds]
          exact .inl ⟨hshift hquiet hall, rfl⟩
        · rw [hrounds]
          refine .inr ⟨k + 1, Nat.succ_lt_succ hk, hshift hquiet hall, w, ?_, ?_⟩
          · exact Nat.succ_add_eq_add_succ n k ▸ hlast
          · simp only [idlingAll, List.range'_succ, List.flatMap_cons, List.append_assoc]
      · obtain ⟨e, he⟩ := Option.isSome_iff_exists.mp hlast.ending_isSome
        simp only [he]
        refine .inr ⟨0, Nat.succ_pos count, nofun, _, hlast, ?_⟩
        rw [he]
        rfl

/-- More rounds change nothing once the loop has ended. -/
theorem rounds_add {e : Ending} (h : (a.rounds deadline count n).ending = some e) (more : Nat) :
    a.rounds deadline (count + more) n = a.rounds deadline count n := by
  induction count generalizing n with
  | zero => cases h
  | succ count ih =>
      rw [Nat.succ_add]
      cases hround : (a.round deadline n).ending with
      | some e => simp only [rounds, hround]
      | none =>
          simp only [rounds, hround] at h ⊢
          rw [ih h]

/-! ### The whole wait -/

/-- What the loop does before the `k`-th round, if it gets there. -/
def upTo (a : Answers) (limit : Option Nat) (k : Nat) : List Act :=
  a.reading (a.deadline limit) 0 ++ a.idlingAll (a.deadline limit) 0 k

/-- The ways in which waiting can go: the clock cannot tell the deadline, the loop is still going on
after so many rounds, or it has ended in one of them. -/
inductive Course (a : Answers) (limit : Option Nat) (count : Nat) : Waiting → Prop where
  | crashed (time : Nat) (hdeadline : a.deadline limit = some time) (hlate : a.latest < time) :
      Course a limit count ⟨[.clock (a.clock 0)], some .crashed⟩
  | goesOn (hclock : ∀ time ∈ a.deadline limit, time ≤ a.latest)
      (hquiet : ∀ j < count, a.Quiet (a.deadline limit) j) :
      Course a limit count ⟨a.upTo limit count, none⟩
  | ends (hclock : ∀ time ∈ a.deadline limit, time ≤ a.latest) (k : Nat) (hk : k < count)
      (hquiet : ∀ j < k, a.Quiet (a.deadline limit) j) (last : Waiting)
      (hlast : a.Last (a.deadline limit) k last) :
      Course a limit count ⟨a.upTo limit k ++ last.acts, last.ending⟩

theorem wait_course (a : Answers) (limit : Option Nat) (count : Nat) :
    a.Course limit count (a.wait limit count) := by
  unfold wait
  cases hclock : (a.deadline limit).all (· ≤ a.latest) with
  | true =>
      simp only [hclock, ↓reduceIte]
      replace hclock : ∀ time ∈ a.deadline limit, time ≤ a.latest := by
        simpa [Option.all_eq_true] using hclock
      rcases a.rounds_cases (a.deadline limit) count 0 with
        ⟨hquiet, hrounds⟩ | ⟨k, hk, hquiet, last, hlast, hrounds⟩
      · rw [hrounds]
        exact .goesOn hclock (by simpa using hquiet)
      · rw [hrounds, ← List.append_assoc]
        rw [Nat.zero_add] at hlast
        exact .ends hclock k hk (by simpa using hquiet) last hlast
  | false =>
      simp only [hclock, Bool.false_eq_true, ↓reduceIte]
      cases hdeadline : a.deadline limit with
      | none => simp [hdeadline] at hclock
      | some time => exact .crashed time hdeadline (by simpa [hdeadline] using hclock)

/-! ### What the acts of a wait tell -/

theorem reading_idle : ∀ act ∈ a.reading deadline n, act.Idle := by
  unfold reading
  split
  · exact List.forall_mem_singleton.mpr (.clock _)
  · exact List.forall_mem_nil _

theorem idling_idle : ∀ act ∈ a.idling deadline n, act.Idle := by
  intro act hact
  simp only [idling, List.cons_append, List.mem_cons, List.mem_append, List.not_mem_nil,
    or_false] at hact
  rcases hact with rfl | hreading | rfl
  · exact .look
  · exact reading_idle act hreading
  · exact .pause

theorem upTo_idle : ∀ act ∈ a.upTo limit k, act.Idle := by
  intro act hact
  rcases List.mem_append.mp hact with hreading | hidling
  · exact reading_idle act hreading
  · obtain ⟨j, -, hact⟩ := List.mem_flatMap.mp hidling
    exact idling_idle act hact

theorem kill_not_mem_upTo {tries : List KillTry} : .kill tries ∉ a.upTo limit k :=
  fun hkill => Act.Idle.not_kill (upTo_idle _ hkill)

/-- A deadline comes from a limit and the first reading of the clock. -/
theorem deadline_eq_some_iff {time : Nat} :
    a.deadline limit = some time ↔ ∃ l, limit = some l ∧ a.clock 0 + l = time :=
  Option.map_eq_some_iff

theorem upTo_succ : a.upTo limit (k + 1) = a.upTo limit k ++ a.idling (a.deadline limit) k := by
  simp [upTo, idlingAll, List.range'_concat]

theorem filterMap_look?_reading : (a.reading deadline n).filterMap Act.look? = [] := by
  unfold reading
  split <;> rfl

theorem filterMap_look?_upTo (hquiet : ∀ j < k, a.Quiet (a.deadline limit) j) :
    (a.upTo limit k).filterMap Act.look? = (List.range k).map a.look := by
  induction k with
  | zero => simp [upTo, idlingAll, filterMap_look?_reading]
  | succ k ih =>
      rw [upTo_succ, List.filterMap_append, ih fun j hj => hquiet j (Nat.lt_succ_of_lt hj),
        List.range_succ, List.map_append]
      simp [idling, Act.look?, filterMap_look?_reading, (hquiet k (Nat.lt_succ_self k)).1]

/-- How often the clock is read before the `k`-th round. -/
def readingsUpTo (limit : Option Nat) (k : Nat) : Nat :=
  if limit.isSome then k + 1 else 0

theorem filterMap_clock?_upTo :
    (a.upTo limit k).filterMap Act.clock? = (List.range (readingsUpTo limit k)).map a.clock := by
  induction k with
  | zero => cases limit <;> rfl
  | succ k ih =>
      rw [upTo_succ, List.filterMap_append, ih]
      cases limit with
      | none => rfl
      | some l =>
          simp only [readingsUpTo, Option.isSome_some, ↓reduceIte, List.range_succ (n := k + 1),
            List.map_append]
          rfl

namespace Course

variable {before after : List Act}

/-- What there is around a kill: quiet rounds before it, a look that found the child running, a
reading of the clock that was past the deadline, and the wait for its end behind it. As no other
round has a kill, the list of acts can be split there in one way only. -/
theorem around_kill {tries : List KillTry} (h : a.Course limit count w)
    (hacts : w.acts = before ++ .kill tries :: after) :
    ∃ time k, a.deadline limit = some time ∧ time ≤ a.clock (k + 1) ∧
      before = a.upTo limit k ++ [.look (.ok none), .clock (a.clock (k + 1))] ∧
      tries = a.kill ∧ after = [.reap a.reap] ∧ w.ending = some (.ofReap a.reap) := by
  have hmem : .kill tries ∈ w.acts := hacts ▸ List.mem_append_right before List.mem_cons_self
  cases h with
  | crashed time hdeadline hlate => simp at hmem
  | goesOn hclock hquiet => exact absurd hmem kill_not_mem_upTo
  | ends hclock k hk hquiet last hlast =>
      cases hlast with
      | ended status h => simp [kill_not_mem_upTo] at hmem
      | failed e h => simp [kill_not_mem_upTo] at hmem
      | killed time hdeadline h hpast =>
          have hsplit : (a.upTo limit k ++ [.look (.ok none), .clock (a.clock (k + 1))]) ++
              .kill a.kill :: [.reap a.reap] = before ++ .kill tries :: after := by
            rw [← hacts, List.append_assoc]
            rfl
          obtain ⟨hbefore, hkill, hafter⟩ :=
            (List.append_cons_inj_of_notMem (by simp [kill_not_mem_upTo]) (by simp)).mp hsplit
          exact ⟨time, k, hdeadline, hpast, hbefore.symm, (Act.kill.inj hkill).symm, hafter.symm,
            rfl⟩

/-- A look that shows an end, or fails, is the last thing that is done. -/
theorem after_end {result : Except IoError (Option ExitStatus)} (h : a.Course limit count w)
    (hacts : w.acts = before ++ .look result :: after) (hend : result ≠ .ok none) : after = [] := by
  have hmem : .look result ∈ w.acts := hacts ▸ List.mem_append_right before List.mem_cons_self
  have hupTo (k : Nat) : .look result ∉ a.upTo limit k := by
    intro hk
    cases upTo_idle _ hk with
    | look => exact hend rfl
  cases h with
  | crashed time hdeadline hlate => simp at hmem
  | goesOn hclock hquiet => exact absurd hmem (hupTo count)
  | ends hclock k hk hquiet last hlast =>
      cases hlast with
      | ended status h =>
          exact ((List.append_cons_inj_of_notMem (hupTo k) List.not_mem_nil).mp hacts).2.2.symm
      | failed e h =>
          exact ((List.append_cons_inj_of_notMem (hupTo k) List.not_mem_nil).mp hacts).2.2.symm
      | killed time hdeadline h hpast => simp [hupTo, hend] at hmem

theorem killed {tries : List KillTry} (h : a.Course limit count w) (hkill : .kill tries ∈ w.acts) :
    tries = a.kill ∧ w.ending = some (.ofReap a.reap) := by
  obtain ⟨before, after, hacts⟩ := List.append_of_mem hkill
  obtain ⟨-, -, -, -, -, htries, -, hending⟩ := h.around_kill hacts
  exact ⟨htries, hending⟩

/-- There is one kill at most, and one of its tries succeeds at most. -/
theorem kills_once (h : a.Course limit count w) :
    w.acts.countP Act.isKill ≤ 1 ∧ (w.acts.flatMap Act.tries).countP KillTry.hits ≤ 1 := by
  have hidle {acts : List Act} (hacts : ∀ act ∈ acts, act.Idle) :
      acts.countP Act.isKill ≤ 1 ∧ (acts.flatMap Act.tries).countP KillTry.hits ≤ 1 := by
    rw [Act.countP_isKill_of_idle hacts, Act.flatMap_tries_of_idle hacts]
    exact ⟨Nat.zero_le 1, Nat.zero_le 1⟩
  cases h with
  | crashed time hdeadline hlate => exact hidle (List.forall_mem_singleton.mpr (.clock _))
  | goesOn hclock hquiet => exact hidle upTo_idle
  | ends hclock k hk hquiet last hlast =>
      have hupTo : ∀ act ∈ a.upTo limit k, act.Idle := upTo_idle
      rw [List.countP_append, List.flatMap_append, Act.countP_isKill_of_idle hupTo,
        Act.flatMap_tries_of_idle hupTo, Nat.zero_add, List.nil_append]
      cases hlast with
      | ended status h => exact ⟨Nat.zero_le 1, Nat.zero_le 1⟩
      | failed e h => exact ⟨Nat.zero_le 1, Nat.zero_le 1⟩
      | killed time hdeadline h hpast =>
          refine ⟨Nat.le_refl 1, ?_⟩
          simpa [Act.tries] using a.countP_hits_kill_le

/-- The loop goes on as long as all rounds are quiet. -/
theorem goes_on_iff (h : a.Course limit count w) :
    w.ending = none ↔ (∀ time ∈ a.deadline limit, time ≤ a.latest) ∧
      ∀ j < count, a.Quiet (a.deadline limit) j := by
  cases h with
  | crashed time hdeadline hlate =>
      refine ⟨nofun, ?_⟩
      rintro ⟨hclock, -⟩
      exact absurd (hclock time hdeadline) (Nat.not_le.mpr hlate)
  | goesOn hclock hquiet => exact ⟨fun _ => ⟨hclock, hquiet⟩, fun _ => rfl⟩
  | ends hclock k hk hquiet last hlast =>
      refine ⟨?_, ?_⟩
      · intro hnone
        have hsome : last.ending.isSome := hlast.ending_isSome
        rw [hnone] at hsome
        cases hsome
      · rintro ⟨-, hall⟩
        exact absurd (hall k hk) hlast.not_quiet

/-- What the looks show are the first answers about the child. -/
theorem looks (h : a.Course limit count w) :
    ∃ m ≤ count, w.acts.filterMap Act.look? = (List.range m).map a.look := by
  cases h with
  | crashed time hdeadline hlate => exact ⟨0, Nat.zero_le count, rfl⟩
  | goesOn hclock hquiet => exact ⟨count, Nat.le_refl count, filterMap_look?_upTo hquiet⟩
  | ends hclock k hk hquiet last hlast =>
      refine ⟨k + 1, hk, ?_⟩
      rw [List.filterMap_append, filterMap_look?_upTo hquiet, List.range_succ, List.map_append]
      congr 1
      cases hlast with
      | ended status h | failed e h | killed time hdeadline h hpast => simp [Act.look?, h]

/-- What the clock shows are its first readings; without a limit there are none. -/
theorem readings (h : a.Course limit count w) :
    ∃ m, w.acts.filterMap Act.clock? = (List.range m).map a.clock ∧ (limit = none → m = 0) := by
  have hnone (k : Nat) (hlimit : limit = none) : readingsUpTo limit k = 0 := by rw [hlimit]; rfl
  cases h with
  | crashed time hdeadline hlate =>
      obtain ⟨l, hlimit, -⟩ := deadline_eq_some_iff.mp hdeadline
      exact ⟨1, rfl, by simp [hlimit]⟩
  | goesOn hclock hquiet => exact ⟨_, filterMap_clock?_upTo, hnone count⟩
  | ends hclock k hk hquiet last hlast =>
      rw [List.filterMap_append, filterMap_clock?_upTo]
      cases hlast with
      | ended status h | failed e h => exact ⟨_, List.append_nil _, hnone k⟩
      | killed time hdeadline h hpast =>
          obtain ⟨l, rfl, -⟩ := deadline_eq_some_iff.mp hdeadline
          refine ⟨k + 2, ?_, nofun⟩
          rw [List.range_succ (n := k + 1), List.map_append]
          rfl

theorem exited {exit : Exit} (h : a.Course limit count w) (hexit : w.ending = some (.exited exit)) :
    (exit.timedOut = true ↔ ∃ tries, .kill tries ∈ w.acts) ∧
      ∃ status, (w.acts.filterMap Act.status?).getLast? = some status ∧
        exit.code = status.toCode := by
  cases h with
  | crashed time hdeadline hlate => cases hexit
  | goesOn hclock hquiet => cases hexit
  | ends hclock k hk hquiet last hlast =>
      rw [List.filterMap_append, Act.filterMap_status?_of_idle upTo_idle, List.nil_append]
      cases hlast with
      | ended status h =>
          cases hexit
          exact ⟨by simp [kill_not_mem_upTo], status, rfl, rfl⟩
      | failed e h => cases hexit
      | killed time hdeadline h hpast =>
          obtain ⟨status, hreap, rfl⟩ := Ending.ofReap_eq_exited (Option.some.inj hexit)
          rw [hreap]
          exact ⟨by simp, status, rfl, rfl⟩

/-- An error is that of the last look, or of waiting for a child that was killed. -/
theorem failed {e : IoError} (h : a.Course limit count w) (hfailed : w.ending = some (.failed e)) :
    w.acts.getLast? = some (.look (.error e)) ∨ w.acts.getLast? = some (.reap (.error e)) := by
  cases h with
  | crashed time hdeadline hlate => cases hfailed
  | goesOn hclock hquiet => cases hfailed
  | ends hclock k hk hquiet last hlast =>
      cases hlast with
      | ended status h => cases hfailed
      | failed e h =>
          cases hfailed
          exact .inl (by simp)
      | killed time hdeadline h hpast =>
          have hreap := Ending.ofReap_eq_failed (Option.some.inj hfailed)
          exact .inr (by simp [hreap])

/-- Waiting crashes if the clock cannot tell the deadline. -/
theorem crashed_iff (h : a.Course limit count w) :
    w.ending = some .crashed ↔ ∃ time ∈ a.deadline limit, a.latest < time := by
  have hnot (hclock : ∀ time ∈ a.deadline limit, time ≤ a.latest) :
      ¬∃ time ∈ a.deadline limit, a.latest < time := by
    simpa only [not_exists, not_and, Nat.not_lt] using hclock
  cases h with
  | crashed time hdeadline hlate => exact ⟨fun _ => ⟨time, hdeadline, hlate⟩, fun _ => rfl⟩
  | goesOn hclock hquiet => exact ⟨nofun, fun hlate => absurd hlate (hnot hclock)⟩
  | ends hclock k hk hquiet last hlast =>
      refine ⟨?_, fun hlate => absurd hlate (hnot hclock)⟩
      intro hcrashed
      cases hlast with
      | ended status h => cases hcrashed
      | failed e h => cases hcrashed
      | killed time hdeadline h hpast =>
          exact absurd (Option.some.inj hcrashed) Ending.ofReap_ne_crashed

/-- Directly before a kill the child was seen to run, and then its time to have passed. -/
theorem before_kill {tries : List KillTry} (h : a.Course limit count w)
    (hacts : w.acts = before ++ .kill tries :: after) :
    ∃ l start middle time, limit = some l ∧ start + l ≤ time ∧
      before = .clock start :: (middle ++ [.look (.ok none), .clock time]) := by
  obtain ⟨time, k, hdeadline, hpast, hbefore, -⟩ := h.around_kill hacts
  obtain ⟨l, rfl, rfl⟩ := deadline_eq_some_iff.mp hdeadline
  exact ⟨l, a.clock 0, _, _, rfl, hpast, hbefore⟩

/-- There is no kill without a limit. -/
theorem no_kill {tries : List KillTry} (h : a.Course none count w) : .kill tries ∉ w.acts := by
  intro hkill
  obtain ⟨before, after, hacts⟩ := List.append_of_mem hkill
  obtain ⟨l, -, -, -, hlimit, -⟩ := h.before_kill hacts
  cases hlimit

end Course

theorem wait_add {e : Ending} (h : (a.wait limit count).ending = some e) (more : Nat) :
    a.wait limit (count + more) = a.wait limit count := by
  cases hclock : (a.deadline limit).all (· ≤ a.latest) with
  | false => simp only [wait, hclock, Bool.false_eq_true, ↓reduceIte]
  | true =>
      simp only [wait, hclock, ↓reduceIte] at h ⊢
      rw [rounds_add h]

end Answers

/-- What one can rely on when a child is waited for with a time limit: this is what was done after
so many rounds. -/
structure KeepsLimit (a : Answers) (limit : Option Nat) (count : Nat) (w : Waiting) : Prop where
  /-- The looks show what the system answered, in its order. -/
  looks : ∃ m ≤ count, w.acts.filterMap Act.look? = (List.range m).map a.look
  /-- So does the clock, which is not read without a limit. -/
  readings : ∃ m, w.acts.filterMap Act.clock? = (List.range m).map a.clock ∧ (limit = none → m = 0)
  /-- The loop goes on exactly as long as the child runs and its time has not passed. -/
  goes_on_iff : w.ending = none ↔ (∀ time ∈ a.deadline limit, time ≤ a.latest) ∧
    ∀ j < count, a.Quiet (a.deadline limit) j
  /-- It crashes if the clock cannot tell when the time will have passed. -/
  crashed_iff : w.ending = some .crashed ↔ ∃ time ∈ a.deadline limit, a.latest < time
  /-- A loop that has ended does no more. -/
  ended : ∀ ending, w.ending = some ending → ∀ more, a.wait limit (count + more) = w
  /-- There is one kill at most, and one of its tries succeeds at most. -/
  kills_once : w.acts.countP Act.isKill ≤ 1 ∧ (w.acts.flatMap Act.tries).countP KillTry.hits ≤ 1
  /-- Directly before a kill the child was seen to run, and then the clock to be at or past the
  start plus the limit. -/
  before_kill : ∀ before tries after, w.acts = before ++ .kill tries :: after →
    ∃ l start middle time, limit = some l ∧ start + l ≤ time ∧
      before = .clock start :: (middle ++ [.look (.ok none), .clock time])
  /-- There is no kill without a limit. -/
  no_kill : limit = none → ∀ tries, .kill tries ∉ w.acts
  /-- Nothing is done, and so nobody killed, after a look that shows an end or fails. -/
  after_end : ∀ before result after, w.acts = before ++ .look result :: after →
    result ≠ .ok none → after = []
  /-- A child that was killed is waited for, and is reported as timed out if its end is known. -/
  killed : ∀ tries, .kill tries ∈ w.acts → tries = a.kill ∧ w.ending = some (.ofReap a.reap)
  /-- An error is that of the last look, or of waiting for a child that was killed. -/
  failed : ∀ e, w.ending = some (.failed e) →
    w.acts.getLast? = some (.look (.error e)) ∨ w.acts.getLast? = some (.reap (.error e))
  /-- The end is reported as timed out exactly if there was a kill, whether or not it succeeded. -/
  timedOut_iff : ∀ exit, w.ending = some (.exited exit) →
    (exit.timedOut = true ↔ ∃ tries, .kill tries ∈ w.acts)
  /-- The code is that of the status that was got last. -/
  code : ∀ exit, w.ending = some (.exited exit) →
    ∃ status, (w.acts.filterMap Act.status?).getLast? = some status ∧ exit.code = status.toCode

/-- **Waiting keeps to its time limit**, whatever the system answers and however many rounds the
loop has made. Each promise is one lemma about the course of the wait. -/
theorem wait_keeps_limit (a : Answers) (limit : Option Nat) (count : Nat) :
    KeepsLimit a limit count (a.wait limit count) := by
  have h : a.Course limit count (a.wait limit count) := a.wait_course limit count
  exact
    { looks := h.looks
      readings := h.readings
      goes_on_iff := h.goes_on_iff
      crashed_iff := h.crashed_iff
      ended := fun _ hending more => Answers.wait_add hending more
      kills_once := h.kills_once
      before_kill := fun _ _ _ hacts => h.before_kill hacts
      no_kill := by
        rintro rfl _
        exact h.no_kill
      after_end := fun _ _ _ hacts hend => h.after_end hacts hend
      killed := fun _ hkill => h.killed hkill
      failed := fun _ hfailed => h.failed hfailed
      timedOut_iff := fun _ hexit => (h.exited hexit).1
      code := fun _ hexit => (h.exited hexit).2 }

/-! ### A child whose conduct is known -/

/-- A round is quiet if the program runs at its time, and the limit is later. -/
theorem quiet_answers_iff {c : Conduct} {limit : Option Nat} {k : Nat} :
    c.answers.Quiet (c.answers.deadline limit) k ↔
      k * lookInterval < c.ends ∧ ∀ l ∈ limit, k * lookInterval < l := by
  cases limit <;> simp [Answers.Quiet, Answers.deadline, Conduct.answers]

/-- In the last of its rounds a program has ended, or its time has passed. -/
theorem not_quiet_of_roundsFor {c : Conduct} {limit : Option Nat} :
    ¬∀ j < roundsFor limit c, c.answers.Quiet (c.answers.deadline limit) j := by
  intro hquiet
  have hlast := quiet_answers_iff.mp
    (hquiet (roundsFor limit c - 1) (Nat.sub_one_lt (Nat.succ_ne_zero _)))
  cases limit with
  | none =>
      simp only [roundsFor, lookInterval, Option.getD_none] at hlast
      omega
  | some l =>
      have hl := hlast.2 l rfl
      simp only [roundsFor, lookInterval, Option.getD_some] at hlast hl
      omega

/-- **The loop sees a program end, or its time pass**, and `waitFor` tells how it ended. -/
theorem waitFor_exit (c : Conduct) {limit : Option Nat} (hlimit : ∀ l ∈ limit, l ≤ latestTime) :
    (c.answers.wait limit (roundsFor limit c)).ending = some (.exited (waitFor limit c).exit) := by
  have h := c.answers.wait_course limit (roundsFor limit c)
  unfold waitFor
  generalize c.answers.wait limit (roundsFor limit c) = w at h ⊢
  cases h with
  | crashed time hdeadline hlate =>
      obtain ⟨l, hl, rfl⟩ := Answers.deadline_eq_some_iff.mp hdeadline
      have htold := hlimit l hl
      simp only [Conduct.answers, Nat.zero_sub, Nat.zero_mul, Nat.zero_add] at hlate
      exact absurd htold (Nat.not_le.mpr hlate)
  | goesOn hclock hquiet => exact absurd hquiet not_quiet_of_roundsFor
  | ends hclock k hk hquiet last hlast =>
      cases hlast with
      | ended status h => rfl
      | failed e h => cases h
      | killed time hdeadline h hpast => rfl

/-- A program that ends in time to be seen is not killed, though its time has passed as well. -/
example : (waitFor (some 100) ⟨[], 100, .code 3, 100⟩).exit = ⟨3, false⟩ := by decide

end Switchyard.Supervisor
