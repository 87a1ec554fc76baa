import Mathlib.Data.List.Infix
import Switchyard.Notify.Queue

/-!
# Switchyard.Proofs.Notify.Queue

**The queue loses nothing, hands nothing over twice and keeps the order** (`hands_over_in_order`),
whatever steps its senders, its worker and its shutdown take in whatever order, and whichever calls
the notifier fails at. What is handed over is what was put in before the last message; when the
shutdown has found the worker ended, all of it has been handed over, and from then on a notice that
is sent changes nothing.

* `beforeStop` — what was sent before the last message, computed from the steps alone.
* `Inv` — the invariant: what was handed over and what waits before the last message make up
  `beforeStop`, while the worker runs; afterwards the first part is all of it.
* `exists_completion` — a shutdown that has begun can always end.

The invariant is proved for each kind of step apart: sending, handing over, leaving, the last
message, and what the shutdown does at the end. In all of them the list of steps grows at its end,
so there is a lemma for each function of the steps that says what one more step adds
(`stopped_concat`, `beforeStop_concat_of_stopped`, `beforeStop_concat_of_running`,
`beforeStop_concat_of_quiet`).

That a shutdown can end is shown by giving the steps of the worker that lead there. They are not
forced: senders may go on sending all the time, but what they send stands behind the last message.
-/

namespace Switchyard.Notify

open Route

/-! ### What was sent -/

/-- What was sent, each notice with its sender. -/
def sends : List Event → List (Nat × Notice)
  | [] => []
  | .send who n :: rest => (who, n) :: sends rest
  | _ :: rest => sends rest

/-- What was sent before the last message was put in. This is what the queue owes, whatever the
worker has done so far. -/
def beforeStop : List Event → List (Nat × Notice)
  | [] => []
  | .send who n :: rest => (who, n) :: beforeStop rest
  | .stop :: _ => []
  | _ :: rest => beforeStop rest

/-- Whether the last message was put in. -/
def stopped : List Event → Bool
  | [] => false
  | .stop :: _ => true
  | _ :: rest => stopped rest

section Traces

variable {trace : List Event} {e : Event}

theorem stopped_concat (trace : List Event) (e : Event) :
    stopped (trace ++ [e]) = (stopped trace || stopped [e]) := by
  induction trace with
  | nil => simp [stopped]
  | cons d rest ih => cases d <;> simp [stopped, ih]

/-- After the last message, what was sent before it stays. -/
theorem beforeStop_concat_of_stopped (h : stopped trace = true) :
    beforeStop (trace ++ [e]) = beforeStop trace := by
  induction trace with
  | nil => simp [stopped] at h
  | cons d rest ih => cases d <;> simp_all [stopped, beforeStop]

theorem beforeStop_concat_of_running (h : stopped trace = false) :
    beforeStop (trace ++ [e]) = beforeStop trace ++ sends [e] := by
  induction trace with
  | nil => cases e <;> rfl
  | cons d rest ih => cases d <;> simp_all [stopped, beforeStop]

theorem beforeStop_concat_of_quiet (h : sends [e] = []) :
    beforeStop (trace ++ [e]) = beforeStop trace := by
  cases hcase : stopped trace with
  | true => exact beforeStop_concat_of_stopped hcase
  | false => rw [beforeStop_concat_of_running hcase, h, List.append_nil]

theorem beforeStop_prefix_sends (trace : List Event) : beforeStop trace <+: sends trace := by
  induction trace with
  | nil => exact List.prefix_refl _
  | cons d rest ih =>
      cases d with
      | send who n => exact List.cons_prefix_cons.mpr ⟨rfl, ih⟩
      | stop => exact List.nil_prefix
      | _ => exact ih

end Traces

namespace Queue

/-! ### The invariant -/

/-- The notices that wait before the last message. Those behind it will be dropped with the queue.
-/
def pending : List Message → List Notice
  | .notice n :: rest => n :: pending rest
  | _ => []

/-- Whether the last message waits. -/
def ending : List Message → Bool
  | [] => false
  | .stop :: _ => true
  | .notice _ :: rest => ending rest

theorem ending_concat (ms : List Message) (m : Message) :
    ending (ms ++ [m]) = (ending ms || ending [m]) := by
  induction ms with
  | nil => simp [ending]
  | cons d rest ih => cases d <;> simp [ending, ih]

theorem pending_concat_of_ending {ms : List Message} (h : ending ms = true) (m : Message) :
    pending (ms ++ [m]) = pending ms := by
  induction ms with
  | nil => simp [ending] at h
  | cons d rest ih => cases d <;> simp_all [ending, pending]

theorem pending_concat_of_not_ending {ms : List Message} (h : ending ms = false) (m : Message) :
    pending (ms ++ [m]) = pending ms ++ pending [m] := by
  induction ms with
  | nil => rfl
  | cons d rest ih => cases d <;> simp_all [ending, pending]

/-- What was handed over, without how it went. -/
def taken (q : Queue) : List Notice :=
  q.handed.map (·.1)

/-- What the worker will hand over if nothing more is sent. A worker that has seen the last message
hands nothing over any more. -/
def due (q : Queue) : List Notice :=
  if q.worker = .running then pending q.waiting else []

/-- The queue agrees with the steps that led to it. `account` is the result; the other parts say
when the last message is where, which decides what is due. -/
structure Inv (trace : List Event) (q : Queue) : Prop where
  /-- What was handed over and what is due make up what was sent before the last message. -/
  account : q.taken ++ q.due = (beforeStop trace).map (·.2)
  /-- The last message waits from when it was put in until the worker gets to it. -/
  last : q.worker = .running → ending q.waiting = stopped trace
  /-- The worker does not end by itself. -/
  ended : q.worker ≠ .running → stopped trace = true
  /-- The shutdown begins when the last message is put in. -/
  begun : q.shutdown = .none ↔ stopped trace = false
  /-- The shutdown goes on when the worker has ended. -/
  joined : q.shutdown = .joined ∨ q.shutdown = .done → q.worker = .gone

theorem inv_start : Inv [] start := by
  constructor <;> simp [start, taken, due, pending, ending, beforeStop, stopped]

variable {trace : List Event} {q r : Queue} {n : Notice} {rest : List Message}

theorem put_of_gone (h : q.worker = .gone) (m : Message) : q.put m = q := by
  unfold put
  rw [if_pos h]

theorem put_of_ne_gone (h : q.worker ≠ .gone) (m : Message) :
    q.put m = { q with waiting := q.waiting ++ [m] } := by
  unfold put
  rw [if_neg h]

/-- A notice that comes before the last message is due behind all others; one that comes after it is
never due, be it in the queue or dropped at once. -/
theorem Inv.send (h : Inv trace q) (who : Nat) (n : Notice) :
    Inv (trace ++ [.send who n]) (q.put (.notice n)) := by
  have hstopped : stopped (trace ++ [.send who n]) = stopped trace := by
    simp [stopped_concat, stopped]
  by_cases hgone : q.worker = .gone
  · have hover : stopped trace = true := h.ended (by simp [hgone])
    rw [put_of_gone hgone]
    refine ⟨?_, ?_, ?_, ?_, h.joined⟩
    · rw [beforeStop_concat_of_stopped hover]
      exact h.account
    · simp [hgone]
    · rw [hstopped]
      exact h.ended
    · rw [hstopped]
      exact h.begun
  · rw [put_of_ne_gone hgone]
    refine ⟨?_, ?_, ?_, ?_, h.joined⟩
    · cases hcase : stopped trace with
      | true =>
          have hdue : due { q with waiting := q.waiting ++ [.notice n] } = q.due := by
            unfold due
            dsimp only
            split
            · rename_i hrunning
              exact pending_concat_of_ending ((h.last hrunning).trans hcase) _
            · rfl
          rw [hdue, beforeStop_concat_of_stopped hcase]
          exact h.account
      | false =>
          have hrunning : q.worker = .running := by
            by_contra hne
            simp [h.ended hne] at hcase
          have hdue : due { q with waiting := q.waiting ++ [.notice n] } = q.due ++ [n] := by
            unfold due
            dsimp only
            rw [if_pos hrunning, if_pos hrunning,
              pending_concat_of_not_ending ((h.last hrunning).trans hcase)]
            rfl
          rw [hdue, beforeStop_concat_of_running hcase, List.map_append, ← h.account,
            ← List.append_assoc]
          rfl
    · intro hrunning
      rw [hstopped]
      dsimp only
      rw [ending_concat, h.last hrunning]
      simp [ending]
    · rw [hstopped]
      exact h.ended
    · rw [hstopped]
      exact h.begun

/-- The oldest notice is handed over, whether the notifier fails at it or not. It moves from what is
due to what was handed over, and their sum stays the same. -/
theorem Inv.take_notice (h : Inv trace q) (hrunning : q.worker = .running)
    (hwaiting : q.waiting = .notice n :: rest) (fails : Bool) :
    Inv (trace ++ [.take fails]) { q with waiting := rest, handed := q.handed ++ [(n, fails)] } := by
  have hstopped : stopped (trace ++ [.take fails]) = stopped trace := by
    simp [stopped_concat, stopped]
  have hlast := h.last hrunning
  rw [hwaiting] at hlast
  refine ⟨?_, ?_, ?_, ?_, h.joined⟩
  · have hdue : q.due = n :: pending rest := by
      rw [due, if_pos hrunning, hwaiting]
      rfl
    rw [beforeStop_concat_of_quiet rfl, ← h.account, hdue]
    simp [taken, due, hrunning]
  · rw [hstopped]
    exact fun _ => hlast
  · exact fun hne => absurd hrunning hne
  · rw [hstopped]
    exact h.begun

/-- When the worker gets to the last message, nothing is due any more. What stands behind that
message was sent too late. -/
theorem Inv.take_stop (h : Inv trace q) (hrunning : q.worker = .running)
    (hwaiting : q.waiting = .stop :: rest) (fails : Bool) :
    Inv (trace ++ [.take fails]) { q with waiting := rest, worker := .leaving } := by
  have hstopped : stopped (trace ++ [.take fails]) = stopped trace := by
    simp [stopped_concat, stopped]
  refine ⟨?_, by simp, ?_, ?_, ?_⟩
  · have hdue : q.due = [] := by
      rw [due, if_pos hrunning, hwaiting]
      rfl
    rw [beforeStop_concat_of_quiet rfl, ← h.account, hdue]
    rfl
  · intro _
    rw [hstopped, ← h.last hrunning, hwaiting]
    rfl
  · rw [hstopped]
    exact h.begun
  · intro hjoined
    have hgone := h.joined hjoined
    rw [hrunning] at hgone
    cases hgone

theorem Inv.leave (h : Inv trace q) (hleaving : q.worker = .leaving) :
    Inv (trace ++ [.leave]) { q with waiting := [], worker := .gone } := by
  have hover : stopped trace = true := h.ended (by simp [hleaving])
  have hstopped : stopped (trace ++ [.leave]) = true := by simp [stopped_concat, hover]
  refine ⟨?_, by simp, fun _ => hstopped, ?_, fun _ => rfl⟩
  · have hdue : q.due = [] := by simp [due, hleaving]
    rw [beforeStop_concat_of_quiet rfl, ← h.account, hdue]
    rfl
  · rw [hstopped, ← hover]
    exact h.begun

theorem Inv.stop (h : Inv trace q) (hnone : q.shutdown = .none) :
    Inv (trace ++ [.stop]) { q.put .stop with shutdown := .waiting } := by
  have hbegun : Notify.stopped trace = false := h.begun.mp hnone
  have hstopped : Notify.stopped (trace ++ [.stop]) = true := by simp [stopped_concat, Notify.stopped]
  have hrunning : q.worker = .running := by
    by_contra hne
    simp [h.ended hne] at hbegun
  rw [put_of_ne_gone (by simp [hrunning])]
  refine ⟨?_, ?_, fun _ => hstopped, by simp [hstopped], by simp⟩
  · have hdue : due { q with waiting := q.waiting ++ [.stop], shutdown := .waiting } = q.due := by
      unfold due
      dsimp only
      rw [if_pos hrunning, if_pos hrunning,
        pending_concat_of_not_ending ((h.last hrunning).trans hbegun)]
      exact List.append_nil _
    rw [hdue, beforeStop_concat_of_quiet rfl]
    exact h.account
  · intro _
    rw [hstopped]
    dsimp only
    rw [ending_concat]
    simp [ending]

/-- What the shutdown does when the worker has ended changes nothing else. -/
theorem Inv.goOn (h : Inv trace q) (hgone : q.worker = .gone) {e : Event} (hquiet : sends [e] = [])
    {next : Shutdown} (hnext : next ≠ .none) : Inv (trace ++ [e]) { q with shutdown := next } := by
  have hover : stopped trace = true := h.ended (by simp [hgone])
  have hstopped : stopped (trace ++ [e]) = true := by simp [stopped_concat, hover]
  refine ⟨?_, by simp [hgone], fun _ => hstopped, by simp [hstopped, hnext], fun _ => hgone⟩
  rw [beforeStop_concat_of_quiet hquiet]
  exact h.account

/-- **Every step keeps the agreement.** One case for each kind of step; a step that cannot be taken
has no state after it. -/
theorem Inv.step (h : Inv trace q) {e : Event} (hstep : q.step e = some r) :
    Inv (trace ++ [e]) r := by
  cases e with
  | send who n =>
      cases hstep
      exact h.send who n
  | take fails =>
      by_cases hrunning : q.worker = .running
      · cases hwaiting : q.waiting with
        | nil => simp [Queue.step, hrunning, hwaiting] at hstep
        | cons m rest =>
            cases m with
            | notice n =>
                simp only [Queue.step, if_pos hrunning, hwaiting, Option.some.injEq] at hstep
                subst hstep
                exact h.take_notice hrunning hwaiting fails
            | stop =>
                simp only [Queue.step, if_pos hrunning, hwaiting, Option.some.injEq] at hstep
                subst hstep
                exact h.take_stop hrunning hwaiting fails
      · simp [Queue.step, hrunning] at hstep
  | leave =>
      by_cases hleaving : q.worker = .leaving
      · simp only [Queue.step, if_pos hleaving, Option.some.injEq] at hstep
        subst hstep
        exact h.leave hleaving
      · simp [Queue.step, hleaving] at hstep
  | stop =>
      by_cases hnone : q.shutdown = .none
      · simp only [Queue.step, if_pos hnone, Option.some.injEq] at hstep
        subst hstep
        exact h.stop hnone
      · simp [Queue.step, hnone] at hstep
  | join =>
      by_cases hended : q.shutdown = .waiting ∧ q.worker = .gone
      · simp only [Queue.step, if_pos hended, Option.some.injEq] at hstep
        subst hstep
        exact h.goOn hended.2 rfl nofun
      · simp [Queue.step, hended] at hstep
  | drop =>
      by_cases hjoined : q.shutdown = .joined
      · have hgone := h.joined (.inl hjoined)
        simp only [Queue.step, if_pos hjoined, Option.some.injEq, put_of_gone hgone] at hstep
        subst hstep
        exact h.goOn hgone rfl nofun
      · simp [Queue.step, hjoined] at hstep

theorem inv_of_reachable (h : Reachable trace q) : Inv trace q := by
  induction h with
  | start => exact inv_start
  | step e _ hstep ih => exact ih.step hstep

/-! ### The end of a shutdown -/

/-- A worker that has the last message before it can get there, by handing over what stands in front
of it. By induction on what waits. -/
theorem exists_leaving (h : Reachable trace q) (hrunning : q.worker = .running)
    (hending : ending q.waiting = true) :
    ∃ more r, Reachable (trace ++ more) r ∧ r.worker = .leaving ∧ r.shutdown = q.shutdown := by
  -- On what waits: every step of the worker makes it shorter.
  generalize hwaiting : q.waiting = ms at hending
  induction ms generalizing trace q with
  | nil => simp [ending] at hending
  | cons m rest ih =>
      cases m with
      | stop =>
          have hstep : q.step (.take false) =
              some { q with waiting := rest, worker := .leaving } := by
            simp only [Queue.step, if_pos hrunning, hwaiting]
          exact ⟨_, _, h.step _ hstep, rfl, rfl⟩
      | notice n =>
          have hstep : q.step (.take false) =
              some { q with waiting := rest, handed := q.handed ++ [(n, false)] } := by
            simp only [Queue.step, if_pos hrunning, hwaiting]
          obtain ⟨more, r, hr, hleaving, hsame⟩ :=
            ih (h.step _ hstep) hrunning rfl hending
          rw [List.append_assoc] at hr
          exact ⟨_, r, hr, hleaving, hsame⟩

theorem exists_gone (h : Reachable trace q) (hleaving : q.worker = .leaving) :
    ∃ more r, Reachable (trace ++ more) r ∧ r.worker = .gone ∧ r.shutdown = q.shutdown := by
  have hstep : q.step .leave = some { q with waiting := [], worker := .gone } := by
    simp only [Queue.step, if_pos hleaving]
  exact ⟨_, _, h.step _ hstep, rfl, rfl⟩

theorem exists_done_of_gone (h : Reachable trace q) (hgone : q.worker = .gone)
    (hwaiting : q.shutdown = .waiting) :
    ∃ more r, Reachable (trace ++ more) r ∧ r.shutdown = .done := by
  have hjoin : q.step .join = some { q with shutdown := .joined } := by
    simp only [Queue.step, hwaiting, hgone, and_self, if_true]
  have hdrop : Queue.step { q with shutdown := .joined } .drop =
      some { q.put .stop with shutdown := .done } := by
    simp only [Queue.step, if_true, put, hgone]
  have hr := (h.step _ hjoin).step _ hdrop
  rw [List.append_assoc] at hr
  exact ⟨_, _, hr, rfl⟩

/-- A shutdown that has begun can end, wherever the worker is. The three cases are the states of the
worker, each of which leads to the next. -/
theorem exists_completion (h : Reachable trace q) (hwaiting : q.shutdown = .waiting) :
    ∃ more r, Reachable (trace ++ more) r ∧ r.shutdown = .done := by
  have hinv := inv_of_reachable h
  have hstopped : stopped trace = true := by
    by_contra hfalse
    have hnone := hinv.begun.mpr (by simpa using hfalse)
    rw [hwaiting] at hnone
    cases hnone
  cases hworker : q.worker with
  | gone => exact exists_done_of_gone h hworker hwaiting
  | leaving =>
      obtain ⟨more, r, hr, hgone, hsame⟩ := exists_gone h hworker
      obtain ⟨more', t, ht, hdone⟩ := exists_done_of_gone hr hgone (hsame.trans hwaiting)
      rw [List.append_assoc] at ht
      exact ⟨_, t, ht, hdone⟩
  | running =>
      obtain ⟨more, r, hr, hleaving, hsame⟩ :=
        exists_leaving h hworker ((hinv.last hworker).trans hstopped)
      obtain ⟨more', t, ht, hgone, hsame'⟩ := exists_gone hr hleaving
      obtain ⟨more'', u, hu, hdone⟩ :=
        exists_done_of_gone ht hgone (hsame'.trans (hsame.trans hwaiting))
      rw [List.append_assoc, List.append_assoc] at hu
      exact ⟨_, u, hu, hdone⟩

/-! ### The notices of one sender -/

/-- What was handed over, each notice with its sender. The senders are not kept by the queue, and
are found again because the order is the same. -/
theorem Inv.exists_taken (h : Inv trace q) :
    ∃ done, done <+: beforeStop trace ∧ q.taken = done.map (·.2) := by
  refine ⟨(beforeStop trace).take q.taken.length, List.take_prefix _ _, ?_⟩
  rw [List.map_take, ← h.account, List.take_left]

theorem Inv.taken_of_ended (h : Inv trace q) (hended : q.worker ≠ .running) :
    q.taken = (beforeStop trace).map (·.2) := by
  have haccount := h.account
  rwa [due, if_neg hended, List.append_nil] at haccount

end Queue

/-- **Nothing is lost, repeated or reordered.** In every state that senders, worker and shutdown can
get into, whatever the notifier fails at, what was handed over is a first part of what was sent
before the last message, and so the notices of each sender are among it in the order in which it
sent them. When the shutdown has got past the worker, all of it was handed over, and a notice that
is sent changes nothing. Sending always goes on, and a shutdown that has begun can end. -/
theorem hands_over_in_order {trace : List Event} {q : Queue} (h : Queue.Reachable trace q) :
    (∃ done, done <+: beforeStop trace ∧ q.taken = done.map (·.2) ∧
      ∀ who, done.filter (·.1 = who) <+: (sends trace).filter (·.1 = who)) ∧
    (q.shutdown = .joined ∨ q.shutdown = .done → q.taken = (beforeStop trace).map (·.2) ∧
      ∀ who n, q.step (.send who n) = some q) ∧
    (∀ who n, ∃ r, q.step (.send who n) = some r) ∧
    (q.shutdown = .waiting →
      ∃ more r, Queue.Reachable (trace ++ more) r ∧ r.shutdown = .done) := by
  have hinv := Queue.inv_of_reachable h
  refine ⟨?_, ?_, ?_, Queue.exists_completion h⟩
  · obtain ⟨done, hpre, htaken⟩ := hinv.exists_taken
    refine ⟨done, hpre, htaken, ?_⟩
    intro who
    exact (hpre.trans (beforeStop_prefix_sends trace)).filter _
  · intro hjoined
    have hgone := hinv.joined hjoined
    refine ⟨hinv.taken_of_ended (by simp [hgone]), ?_⟩
    intro who n
    rw [Queue.step, Queue.put_of_gone hgone]
  · intro who n
    exact ⟨_, rfl⟩

/-- Two senders, of which one comes too late once, and a notifier that fails once. -/
theorem hands_over_in_order_late :
    ∃ trace q, Queue.Reachable trace q ∧ q.shutdown = .done ∧
      q.handed = [(.reset, true), (.reset, false)] ∧
      q.taken = (beforeStop trace).map (·.2) := by
  have h1 : Queue.Reachable [.send 0 .reset] _ := .step _ .start rfl
  have h2 : Queue.Reachable [.send 0 .reset, .send 1 .reset] _ := .step _ h1 rfl
  have h3 := h2.step .stop rfl
  have h4 := h3.step (.send 0 .reset) rfl
  have h5 := h4.step (.take true) rfl
  have h6 := h5.step (.take false) rfl
  have h7 := h6.step (.take false) rfl
  have h8 := h7.step .leave rfl
  have h9 := h8.step .join rfl
  have h10 := h9.step .drop rfl
  exact ⟨_, _, h10, rfl, rfl, ((hands_over_in_order h10).2.1 (.inr rfl)).1⟩

end Switchyard.Notify
