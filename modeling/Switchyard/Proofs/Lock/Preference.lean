import Switchyard.Proofs.Lock.Exclusion

/-!
# Switchyard.Proofs.Lock.Preference

**How far writers go first.** A writer means to keep out every reader that comes after it. What
keeps readers out is the gate, and nothing else: while a party stays at stages of some kind, no
reader is let in from anew if and only if the party has the gate at all of them
(`holdsBack_iff_holdsGate`).

* One direction is one step: a reader is let in by taking the gate, which it cannot while somebody
  else has it (`admitted_of_step`); a run follows by induction (`holdsBack_of_holdsGate`).
* For the other, every stage is one that a party can be at while a reader stands beside it
  (`reachable_alone`), and where the gate is open the reader walks through (`along_entry`).

A writer has the gate from `draining` on, but it begins to acquire at `queueing`. So a reader that
comes later still overtakes it while it waits for its turn, and once more between its turn and the
gate (`reader_overtakes`).

`HoldsBack` is stated of kinds of stages and not of writers, so that both directions are about the
same thing and nothing has to be known of the stages in between. It speaks of runs: a reader that
was let in before may get its guard while the writer already holds the gate, and that does not count
as being overtaken.
-/

namespace Switchyard.Lock

namespace Stage

/-- A writer, from where it begins to acquire to where it lets go. -/
def isAcquiring : Stage → Bool
  | queueing | closing | draining | writing => true
  | _ => false

/-- A reader that was let in and has not left. -/
def isAdmitted : Stage → Bool
  | counting | passing | passed | reading => true
  | _ => false

end Stage

/-- A reader is let in by taking the gate. Any other move of a reader that has been let in is one by
which it goes on or leaves. -/
theorem Moves.admitted_or_free {p q : Stage} {c d : Shared} (h : Moves p q c d)
    (hq : q.isAdmitted = true) : p.isAdmitted = true ∨ c.gateTaken = false := by
  cases h with
  | takeGate hfree => exact .inr hfree
  | count | pass | read => exact .inl rfl
  | enter | queue | leave | turn | close | write | reopen | yield | pause | finish => cases hq

namespace State

variable {s t : State} {w i : Nat} {P : Stage → Bool} {kind : LockKind}

/-- The party in a place is at a stage of a kind. -/
def At (i : Nat) (P : Stage → Bool) (s : State) : Prop :=
  ∃ p, s.stages[i]? = some p ∧ P p = true

/-- A run in which a party stays at stages of a kind. -/
def During (w : Nat) (P : Stage → Bool) : State → State → Prop :=
  Along (At w P)

/-- While a party is at stages of a kind, no reader is let in: whoever has a read guard at the end
of such a run was let in before it began. The party may be any, and the run may begin anywhere, so a
reader that comes during such a run gets no guard in the rest of it. -/
def HoldsBack (P : Stage → Bool) (kind : LockKind) : Prop :=
  ∀ (todos : List (List Mode)) (s t : State) (w i : Nat),
    Reachable kind (todos.map Party.start) s → During w P s t →
    t.stages[i]? = some .reading → At i Stage.isAdmitted s

/-! ### The gate keeps readers out -/

/-- **One step.** While the gate is taken, a step lets no reader in. -/
theorem admitted_of_step {e : Event} (hgate : s.gateTaken = true) (hstep : s.step e = some t)
    (hi : At i Stage.isAdmitted t) : At i Stage.isAdmitted s := by
  obtain ⟨q, hat, hq⟩ := hi
  rcases step_moves hstep with hrest | ⟨j, chosen, p, r, -, hmove⟩
  · exact ⟨q, hrest.stages ▸ hat, hq⟩
  · rw [hmove.stages, List.getElem?_set] at hat
    by_cases hj : j = i
    · -- The reader itself moved: had it only now been let in, the gate would have been free.
      subst hj
      have hlt : j < s.stages.length := (List.getElem?_eq_some_iff.mp hmove.here).1
      rw [if_pos rfl, if_pos hlt, Option.some.injEq] at hat
      subst hat
      rcases hmove.shared.admitted_or_free hq with hp | hfree
      · exact ⟨p, hmove.here, hp⟩
      · have htaken : s.shared.gateTaken = true := hgate
        rw [hfree] at htaken
        cases htaken
    · rw [if_neg hj] at hat
      exact ⟨q, hat, hq⟩

/-- A party that has the gate lets no reader in as long as it has it. By induction on the run, with
`admitted_of_step` for each of its steps. -/
theorem holdsBack_of_holdsGate (hP : ∀ p, P p = true → p.holdsGate = true) : HoldsBack P kind := by
  intro todos s t w i hs hrun hreading
  have hadmitted : At i Stage.isAdmitted t := ⟨.reading, hreading, rfl⟩
  clear hreading
  -- On the run, from its end: before each step the party has the gate.
  induction hrun with
  | here _ => exact hadmitted
  | step e hrun hstep _ ih =>
      obtain ⟨p, hw, hp⟩ := hrun.last
      have hinv := inv_of_reachable (hrun.reachable hs)
      exact ih (admitted_of_step (hinv.gateTaken hw (hP p hp)) hstep hadmitted)

/-! ### Nothing else does -/

/-- A party at a stage, with a reader beside it that has not come yet. What is shared is what
follows from that stage. -/
def alone (kind : LockKind) (p : Stage) : State :=
  ⟨kind, p.holdsTurn, p.holdsGate, p.isCounted.toNat, [⟨p, false, []⟩, .start [.read]]⟩

/-- A party can be at any stage while the other stands still. It is shown by the one run of a
reader, and the one of a writer, that go through all of them. -/
theorem reachable_alone (kind : LockKind) (p : Stage) :
    ∃ todo, Reachable kind ([todo, [.read]].map Party.start) (alone kind p) := by
  have idle : Reachable kind ([[], [.read]].map Party.start) (alone kind .idle) := .start
  -- The stages of a reader, in their order.
  have entering : Reachable kind ([[.read], [.read]].map Party.start) (alone kind .entering) :=
    .step (.go 0 none) .start rfl
  have counting := entering.step (t := alone kind .counting) (.go 0 none) rfl
  have passing := counting.step (t := alone kind .passing) (.go 0 none) rfl
  have passed := passing.step (t := alone kind .passed) (.go 0 none) rfl
  have reading := passed.step (t := alone kind .reading) (.go 0 none) (by cases kind <;> rfl)
  -- And those of a writer.
  have queueing : Reachable kind ([[.write], [.read]].map Party.start) (alone kind .queueing) :=
    .step (.go 0 none) .start rfl
  have closing := queueing.step (t := alone kind .closing) (.go 0 none) rfl
  have draining := closing.step (t := alone kind .draining) (.go 0 none) rfl
  have writing := draining.step (t := alone kind .writing) (.go 0 none) rfl
  have opened := writing.step (t := alone kind .opened) (.go 0 none) rfl
  have yielding := opened.step (t := alone kind .yielding) (.go 0 none) (by cases kind <;> rfl)
  have yielded := yielding.step (t := alone kind .yielded) (.go 0 none) rfl
  cases p with
  | idle => exact ⟨_, idle⟩
  | entering => exact ⟨_, entering⟩
  | counting => exact ⟨_, counting⟩
  | passing => exact ⟨_, passing⟩
  | passed => exact ⟨_, passed⟩
  | reading => exact ⟨_, reading⟩
  | queueing => exact ⟨_, queueing⟩
  | closing => exact ⟨_, closing⟩
  | draining => exact ⟨_, draining⟩
  | writing => exact ⟨_, writing⟩
  | opened => exact ⟨_, opened⟩
  | yielding => exact ⟨_, yielding⟩
  | yielded => exact ⟨_, yielded⟩

/-- Who stands still stays at its stage. -/
theorem at_of_beside {pre post : List Party} {p : Party} (hw : pre[w]? = some p)
    (hp : P p.stage = true) (h : Beside pre post s) : At w P s := by
  obtain ⟨party, hat⟩ := h
  have hlt : w < pre.length := (List.getElem?_eq_some_iff.mp hw).1
  refine ⟨p.stage, stage_of_party ?_, hp⟩
  rw [hat, List.getElem?_append_left hlt, hw]

/-- **What holds late readers back.** While a party stays at stages of some kind, no reader is let
in, in whatever order the parties take their steps, if and only if the party has the gate at each
of these stages. A writer has it from where it begins to wait for the readers to where it lets go,
and not before. -/
theorem holdsBack_iff_holdsGate (P : Stage → Bool) (kind : LockKind) :
    HoldsBack P kind ↔ ∀ p, P p = true → p.holdsGate = true := by
  refine ⟨?_, holdsBack_of_holdsGate⟩
  intro h p hp
  cases hopen : p.holdsGate with
  | true => rfl
  | false =>
      -- The gate is open, and the reader that stands beside the party walks in.
      exfalso
      obtain ⟨todo, hs⟩ := reachable_alone kind p
      have hwalk : Along (Beside [⟨p, false, []⟩] []) (alone kind p) _ :=
        along_entry (.here ⟨_, rfl⟩) hopen rfl (by simp [Party.awaits])
      have hrun : During 0 P (alone kind p) _ := hwalk.imp fun s => at_of_beside rfl hp
      obtain ⟨q, hidle, hq⟩ := h _ _ _ 0 1 hs hrun rfl
      cases hidle
      cases hq

/-! ### A writer that is overtaken -/

/-- A writer that has just opened the gate, a second one that waits for its turn, and a reader that
has not come yet. Between threads the second writer sleeps. -/
def behind (kind : LockKind) : State :=
  ⟨kind, true, false, 0,
    [⟨.opened, false, []⟩, ⟨.queueing, kind = .thread, []⟩, .start [.read]]⟩

theorem reachable_behind (kind : LockKind) :
    Reachable kind ([[.write], [.write], [.read]].map Party.start) (behind kind) := by
  have first : Reachable kind ([[.write], [.write], [.read]].map Party.start)
      ⟨kind, false, false, 0, [⟨.queueing, false, []⟩, .start [.write], .start [.read]]⟩ :=
    .step (.go 0 none) .start rfl
  have closing := first.step (.go 0 none)
    (t := ⟨kind, true, false, 0, [⟨.closing, false, []⟩, .start [.write], .start [.read]]⟩) rfl
  have draining := closing.step (.go 0 none)
    (t := ⟨kind, true, true, 0, [⟨.draining, false, []⟩, .start [.write], .start [.read]]⟩) rfl
  have writing := draining.step (.go 0 none)
    (t := ⟨kind, true, true, 0, [⟨.writing, false, []⟩, .start [.write], .start [.read]]⟩) rfl
  have second := writing.step (.go 1 none)
    (t := ⟨kind, true, true, 0,
      [⟨.writing, false, []⟩, ⟨.queueing, false, []⟩, .start [.read]]⟩) rfl
  cases kind with
  | thread =>
      have asleep := second.step (.go 1 none)
        (t := ⟨.thread, true, true, 0,
          [⟨.writing, false, []⟩, ⟨.queueing, true, []⟩, .start [.read]]⟩) rfl
      exact asleep.step (.go 0 none) rfl
  | process => exact second.step (.go 0 none) rfl

/-- **A reader overtakes a writer.** The second writer waits for its turn throughout, the reader
comes after it and has its guard first: so a writer that has begun to acquire does not hold readers
back, whichever way the permits are made. -/
theorem reader_overtakes :
    (∀ kind, ∃ s t, Reachable kind ([[.write], [.write], [.read]].map Party.start) s ∧
      During 1 Stage.isAcquiring s t ∧
      s.stages[2]? = some .idle ∧ t.stages[2]? = some .reading) ∧
    ∀ kind, ¬ HoldsBack Stage.isAcquiring kind := by
  have hover (kind : LockKind) :
      ∃ s t, Reachable kind ([[.write], [.write], [.read]].map Party.start) s ∧
        During 1 Stage.isAcquiring s t ∧
        s.stages[2]? = some .idle ∧ t.stages[2]? = some .reading := by
    have hwalk : Along (Beside [⟨.opened, false, []⟩, ⟨.queueing, kind = .thread, []⟩] [])
        (behind kind) _ :=
      along_entry (.here ⟨_, rfl⟩) rfl rfl (by simp [Party.awaits, Stage.wants])
    have hrun : During 1 Stage.isAcquiring (behind kind) _ :=
      hwalk.imp fun s => at_of_beside rfl rfl
    exact ⟨_, _, reachable_behind kind, hrun, rfl, rfl⟩
  refine ⟨hover, ?_⟩
  intro kind h
  obtain ⟨s, t, hs, hrun, hidle, hreading⟩ := hover kind
  obtain ⟨p, hat, hp⟩ := h _ _ _ 1 2 hs hrun hreading
  rw [hidle] at hat
  cases hat
  cases hp

end State
end Switchyard.Lock
