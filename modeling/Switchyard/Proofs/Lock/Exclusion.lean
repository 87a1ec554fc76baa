import Switchyard.Proofs.Lock.Moves

/-!
# Switchyard.Proofs.Lock.Exclusion

**A writer is alone, and readers are counted.** The invariant (`Inv`) ties the shared part of a
lock to the stages of its parties: as many parties hold the gate, or the turn, as there are taken,
the count is the number of readers between counting in and counting out, and it is zero while a
writer writes. Each of its parts is a balance that every single move keeps (`Moves.gate_balance`,
`Moves.turn_balance`, `Moves.count_balance`, `Moves.eq_of_writing`), so it holds in every reachable
state (`inv_of_reachable`).

Readers do not exclude each other: all that come first can have their guards at once
(`readers_together`).

The four balances hold of a single move in isolation: they compare what the shared part says with
what the stage of one party says, before and after. That a party which holds the gate makes it taken
is a hypothesis of the first, and follows from the invariant in the state before. So the invariant
is not proved from the steps but from the moves, of which there are few, and `inv_moved` is
arithmetic on the counts of parties.

The existence of a state with all readers inside is proved by taking the steps of one reader after
another (`along_entry`), each of which finds the gate open again.
-/

namespace Switchyard.Lock

/-! ### Who holds what at which stage -/

namespace Stage

/-- The gate is held. -/
def holdsGate : Stage → Bool
  | counting | passing | draining | writing => true
  | _ => false

/-- The turn is held. -/
def holdsTurn : Stage → Bool
  | closing | draining | writing | opened | yielding => true
  | _ => false

/-- A reader that was counted in and not yet out. -/
def isCounted : Stage → Bool
  | passing | passed | reading => true
  | _ => false

/-- A write guard is live. -/
def isWriting : Stage → Bool
  | writing => true
  | _ => false

/-- A read guard is live. -/
def isReading : Stage → Bool
  | reading => true
  | _ => false

end Stage

/-! ### Balances of one move -/

section Balances

variable {p q : Stage} {c d : Shared}

/-- The gate is taken by who begins to hold it, and given back by who ceases to. Truth values are
counted, so that one equation says both. -/
theorem Moves.gate_balance (h : Moves p q c d) (hp : p.holdsGate = true → c.gateTaken = true) :
    d.gateTaken.toNat + p.holdsGate.toNat = c.gateTaken.toNat + q.holdsGate.toNat := by
  cases h <;> simp_all [Stage.holdsGate]

/-- The same of the turn. -/
theorem Moves.turn_balance (h : Moves p q c d) (hp : p.holdsTurn = true → c.turnTaken = true) :
    d.turnTaken.toNat + p.holdsTurn.toNat = c.turnTaken.toNat + q.holdsTurn.toNat := by
  cases h <;> simp_all [Stage.holdsTurn]

/-- Counting in and counting out keep the count, unless it was zero before counting out: natural
numbers do not go below that. -/
theorem Moves.count_balance (h : Moves p q c d) (hp : p.isCounted = true → 0 < c.readers) :
    d.readers + p.isCounted.toNat = c.readers + q.isCounted.toNat := by
  cases h <;> simp_all [Stage.isCounted]
  omega

/-- A writer gets its guard when no reader is counted, and in no other way. The move changes nothing
of what is shared. -/
theorem Moves.eq_of_writing (h : Moves p .writing c d) : c.readers = 0 ∧ d = c := by
  cases h with
  | write hzero => exact ⟨hzero, rfl⟩

/-- The count grows only by a reader that has the gate. -/
theorem Moves.readers_le (h : Moves p q c d) (hp : p ≠ .counting) : d.readers ≤ c.readers := by
  cases h <;> simp_all

end Balances

/-! ### Counting parties -/

namespace State

variable {s t : State} {i : Nat} {p q : Stage}

/-- The number of parties at stages of a kind. -/
def among (P : Stage → Bool) (s : State) : Nat :=
  s.stages.countP P

theorem among_rested (P : Stage → Bool) (h : Rested s t) : t.among P = s.among P := by
  unfold among
  rw [h.stages]

theorem among_pos {P : Stage → Bool} (h : s.stages[i]? = some p) (hp : P p = true) :
    0 < s.among P :=
  List.countP_pos_iff.mpr ⟨p, List.mem_of_getElem? h, hp⟩

/-- A move changes the number at any kind of stages by the party that moves, and by no other. -/
theorem among_moved (P : Stage → Bool) (h : MovedTo i p q s t) :
    t.among P + (P p).toNat = s.among P + (P q).toNat := by
  obtain ⟨hlt, hget⟩ := List.getElem?_eq_some_iff.mp h.here
  have hpos : (P p).toNat ≤ s.among P := by
    cases hp : P p with
    | false => exact Nat.zero_le _
    | true => exact among_pos h.here hp
  have hite : ∀ b : Bool, (if b = true then 1 else 0) = b.toNat := by decide
  unfold among at hpos ⊢
  rw [h.stages, List.countP_set hlt, hget, hite, hite]
  omega

theorem among_le (s : State) {P R : Stage → Bool} (h : ∀ st, P st = true → R st = true) :
    s.among P ≤ s.among R :=
  List.countP_mono_left fun st _ => h st

/-- Parties of two kinds that exclude each other are different parties, so that they are no more
together than those of any kind that has both. -/
theorem among_add_le (s : State) {P Q R : Stage → Bool}
    (h : ∀ st, (P st).toNat + (Q st).toNat ≤ (R st).toNat) :
    s.among P + s.among Q ≤ s.among R := by
  unfold among
  -- On the parties: each of them adds at most one to either side.
  induction s.stages with
  | nil => simp
  | cons st rest ih =>
      have hst := h st
      simp only [List.countP_cons]
      cases hP : P st <;> cases hQ : Q st <;> cases hR : R st <;> simp [hP, hQ, hR] at hst ⊢ <;>
        omega

/-! ### The invariant -/

/-- The shared part agrees with where the parties are. The first three parts hold for every party
alike; the last one is what a writer waits for. -/
structure Inv (s : State) : Prop where
  /-- The gate is taken by one party, or free and held by none. -/
  gate : s.among Stage.holdsGate = s.gateTaken.toNat
  /-- The same of the turn. -/
  turn : s.among Stage.holdsTurn = s.turnTaken.toNat
  /-- Every reader between counting in and counting out is counted. -/
  counted : s.readers = s.among Stage.isCounted
  /-- Nobody is counted while a writer writes. -/
  drained : 0 < s.among Stage.isWriting → s.readers = 0

theorem Inv.gateTaken (h : Inv s) (hi : s.stages[i]? = some p) (hp : p.holdsGate = true) :
    s.gateTaken = true := by
  have hpos := among_pos hi hp
  have hone := Bool.toNat_le s.gateTaken
  rw [h.gate] at hpos
  exact Bool.toNat_eq_one.mp (by omega)

theorem Inv.turnTaken (h : Inv s) (hi : s.stages[i]? = some p) (hp : p.holdsTurn = true) :
    s.turnTaken = true := by
  have hpos := among_pos hi hp
  have hone := Bool.toNat_le s.turnTaken
  rw [h.turn] at hpos
  exact Bool.toNat_eq_one.mp (by omega)

theorem Inv.readers_pos (h : Inv s) (hi : s.stages[i]? = some p) (hp : p.isCounted = true) :
    0 < s.readers := by
  rw [h.counted]
  exact among_pos hi hp

/-- While a writer writes, nobody else has the gate, and so nobody is about to be counted in. -/
theorem Inv.not_counting (h : Inv s) (hw : 0 < s.among Stage.isWriting)
    (hi : s.stages[i]? = some p) : p ≠ .counting := by
  rintro rfl
  have hcounting : 0 < s.among (· == .counting) := among_pos hi rfl
  have hle : s.among Stage.isWriting + s.among (· == .counting) ≤ s.among Stage.holdsGate :=
    among_add_le s fun st => by cases st <;> decide
  have hone := Bool.toNat_le s.gateTaken
  rw [h.gate] at hle
  omega

theorem inv_start (kind : LockKind) (todos : List (List Mode)) :
    Inv (start kind (todos.map Party.start)) := by
  have hidle : ∀ P : Stage → Bool, P .idle = false →
      (start kind (todos.map Party.start)).among P = 0 := by
    intro P hP
    refine List.countP_eq_zero.mpr ?_
    intro st hst
    simp only [start, stages, List.map_map, List.mem_map] at hst
    obtain ⟨todo, -, rfl⟩ := hst
    simpa [Party.start] using hP
  refine ⟨hidle _ rfl, hidle _ rfl, (hidle _ rfl).symm, ?_⟩
  intro _
  rfl

theorem inv_rested (h : Inv s) (hrest : Rested s t) : Inv t := by
  have hshared := hrest.shared
  simp only [shared, Shared.mk.injEq] at hshared
  obtain ⟨hturn, hgate, hreaders⟩ := hshared
  refine ⟨?_, ?_, ?_, ?_⟩
  · rw [among_rested _ hrest, hgate]
    exact h.gate
  · rw [among_rested _ hrest, hturn]
    exact h.turn
  · rw [among_rested _ hrest, hreaders]
    exact h.counted
  · rw [among_rested _ hrest, hreaders]
    exact h.drained

theorem inv_moved (h : Inv s) (hmove : MovedTo i p q s t) : Inv t := by
  have hgate := hmove.shared.gate_balance (h.gateTaken hmove.here)
  have hturn := hmove.shared.turn_balance (h.turnTaken hmove.here)
  have hcount := hmove.shared.count_balance (h.readers_pos hmove.here)
  have hg := among_moved Stage.holdsGate hmove
  have ht := among_moved Stage.holdsTurn hmove
  have hc := among_moved Stage.isCounted hmove
  have hw := among_moved Stage.isWriting hmove
  simp only [shared] at hgate hturn hcount
  refine ⟨?_, ?_, ?_, ?_⟩
  · have := h.gate
    omega
  · have := h.turn
    omega
  · have := h.counted
    omega
  · intro hpos
    by_cases hq : q = .writing
    · -- The party that moved is the writer: it found nobody counted.
      subst hq
      obtain ⟨hzero, hsame⟩ := hmove.shared.eq_of_writing
      have hreaders : t.readers = s.readers := congrArg Shared.readers hsame
      rw [hreaders]
      exact hzero
    · -- Another party writes, and so the one that moved was not about to be counted.
      have hqw : Stage.isWriting q = false := by cases q <;> simp_all [Stage.isWriting]
      have hbefore : 0 < s.among Stage.isWriting := by
        rw [hqw, Bool.toNat_false] at hw
        omega
      have hle := hmove.shared.readers_le (h.not_counting hbefore hmove.here)
      have hzero := h.drained hbefore
      simp only [shared] at hle
      omega

theorem inv_step {e : Event} (h : Inv s) (hstep : s.step e = some t) : Inv t := by
  rcases step_moves hstep with hrest | ⟨i, chosen, p, q, -, hmove⟩
  · exact inv_rested h hrest
  · exact inv_moved h hmove

theorem inv_of_reachable {kind : LockKind} {todos : List (List Mode)}
    (h : Reachable kind (todos.map Party.start) s) : Inv s := by
  induction h with
  | start => exact inv_start kind todos
  | step e _ hstep ih => exact inv_step ih hstep

/-! ### Readers together -/

/-- A party whose first section is a reader's, in that section; any other party as it was. -/
def admitted (todo : List Mode) : Party :=
  match todo with
  | .read :: rest => ⟨.reading, false, rest⟩
  | todo => .start todo

variable {s₀ : State} {kind : LockKind} {parties pre post : List Party} {party : Party}
  {todo : List Mode}

/-- All parties but one are these. -/
def Beside (pre post : List Party) (s : State) : Prop :=
  ∃ party, s.parties = pre ++ party :: post

/-- A party that is awake goes on while the others stand still. It is the step of every run that is
given explicitly. -/
theorem along_go (chosen : Option Nat) (h : Along (Beside pre post) s₀ s)
    (hat : s.parties = pre ++ party :: post) (hawake : party.asleep = false)
    (hgo : s.advance pre.length party chosen = some t) (hstill : Beside pre post t) :
    Along (Beside pre post) s₀ t := by
  refine h.step (.go pre.length chosen) ?_ hstill
  have hget : s.parties[pre.length]? = some party := by
    rw [hat]
    simp
  unfold step
  simp [hget, hawake, hgo]

/-- Where nobody awaits a permit, nobody has to be woken. -/
theorem mayWake_none (permit : Permit) (h : ∀ p ∈ s.parties, p.awaits permit = false) :
    s.mayWake permit none = true := by
  unfold mayWake
  cases s.kind with
  | process => rfl
  | thread =>
      have hnone : s.parties.any (·.awaits permit) = false := by
        rw [List.any_eq_false]
        intro p hp
        simp [h p hp]
      simp [hnone]

/-- A reader that finds the gate open, with nobody asleep before it, goes through to its section
while the others stand still. -/
theorem along_entry (h : Along (Beside pre post) s₀ s) (hgate : s.gateTaken = false)
    (hat : s.parties = pre ++ .start (.read :: todo) :: post)
    (hquiet : ∀ p ∈ pre ++ post, p.awaits .gate = false) :
    Along (Beside pre post) s₀
      { s with readers := s.readers + 1, parties := pre ++ ⟨.reading, false, todo⟩ :: post } := by
  have htell (t : State) (ht : t.parties = pre ++ ⟨.passed, false, todo⟩ :: post) :
      t.mayWake .gate none = true := by
    refine mayWake_none .gate ?_
    intro p hp
    rw [ht] at hp
    rcases List.mem_append.mp hp with hp | hp
    · exact hquiet p (List.mem_append_left _ hp)
    · rcases List.mem_cons.mp hp with rfl | hp
      · rfl
      · exact hquiet p (List.mem_append_right _ hp)
  obtain ⟨k, turn, gate, n, ps⟩ := s
  subst hgate hat
  -- The reader's steps one by one; it finds the gate open, and when it tells of it nobody sleeps.
  have entering : Along (Beside pre post) s₀
      ⟨k, turn, false, n, pre ++ ⟨.entering, false, todo⟩ :: post⟩ :=
    along_go none h rfl rfl (by simp [advance, Party.start, put]) ⟨_, rfl⟩
  have counting : Along (Beside pre post) s₀
      ⟨k, turn, true, n, pre ++ ⟨.counting, false, todo⟩ :: post⟩ :=
    along_go none entering rfl rfl (by simp [advance, acquire, taken, setTaken, put]) ⟨_, rfl⟩
  have passing : Along (Beside pre post) s₀
      ⟨k, turn, true, n + 1, pre ++ ⟨.passing, false, todo⟩ :: post⟩ :=
    along_go none counting rfl rfl (by simp [advance, put]) ⟨_, rfl⟩
  have passed : Along (Beside pre post) s₀
      ⟨k, turn, false, n + 1, pre ++ ⟨.passed, false, todo⟩ :: post⟩ :=
    along_go none passing rfl rfl (by simp [advance, setTaken, put]) ⟨_, rfl⟩
  refine along_go none passed rfl rfl ?_ ⟨_, rfl⟩
  simp only [advance, announce]
  rw [if_pos (htell _ rfl)]
  simp [wakeChosen, put]

/-- Readers that come first get their guards one after another, and none has to give its own back
for the next. By induction on those that are still to come; whoever does not begin as a reader is
passed over. -/
theorem reachable_entries (todos : List (List Mode)) (h : Reachable kind parties s)
    (hgate : s.gateTaken = false) (hat : s.parties = pre ++ todos.map Party.start)
    (hquiet : ∀ p ∈ pre, p.awaits .gate = false) :
    ∃ t, Reachable kind parties t ∧ t.parties = pre ++ todos.map admitted := by
  induction todos generalizing s pre with
  | nil => exact ⟨s, h, hat⟩
  | cons todo rest ih =>
      have hmove (q : Party) (later : List Party) : pre ++ q :: later = (pre ++ [q]) ++ later := by
        simp
      have hpre (q : Party) (hq : q.awaits .gate = false) :
          ∀ p ∈ pre ++ [q], p.awaits .gate = false := by
        intro p hp
        rcases List.mem_append.mp hp with hp | hp
        · exact hquiet p hp
        · rw [List.mem_singleton.mp hp]
          exact hq
      rw [List.map_cons, hmove]
      match todo, hat with
      | .read :: todo, hat =>
          have hothers : ∀ p ∈ pre ++ rest.map Party.start, p.awaits .gate = false := by
            intro p hp
            rcases List.mem_append.mp hp with hp | hp
            · exact hquiet p hp
            · obtain ⟨later, -, rfl⟩ := List.mem_map.mp hp
              rfl
          have hin := (along_entry (.here ⟨_, hat⟩) hgate hat hothers).reachable h
          exact ih hin hgate (hmove _ _) (hpre _ rfl)
      -- Whoever does not begin as a reader stays where it is.
      | [], hat => exact ih h hgate (hat.trans (hmove _ _)) (hpre _ rfl)
      | .write :: todo, hat => exact ih h hgate (hat.trans (hmove _ _)) (hpre _ rfl)

/-- All parties that begin as readers can have their guards at once. -/
theorem readers_together (kind : LockKind) (todos : List (List Mode)) :
    ∃ s, Reachable kind (todos.map Party.start) s ∧
      ∀ (i : Nat) (todo : List Mode), todos[i]? = some (.read :: todo) →
        s.stages[i]? = some .reading := by
  have hat : (start kind (todos.map Party.start)).parties = [] ++ todos.map Party.start := rfl
  obtain ⟨s, hs, hin⟩ := reachable_entries todos .start rfl hat (by simp)
  refine ⟨s, hs, ?_⟩
  intro i todo hi
  simp [stages, hin, hi, admitted]

/-! ### Exclusion -/

/-- As many write guards as gates: one at most, since a writer holds the gate while it writes. -/
theorem Inv.writing_le_one (h : Inv s) : s.among Stage.isWriting ≤ 1 := by
  calc s.among Stage.isWriting
      ≤ s.among Stage.holdsGate := among_le s fun st => by cases st <;> decide
    _ = s.gateTaken.toNat := h.gate
    _ ≤ 1 := Bool.toNat_le _

/-- A live read guard is a counted reader, and none is counted while a write guard is live. -/
theorem Inv.not_reading (h : Inv s) (hw : 0 < s.among Stage.isWriting) :
    s.among Stage.isReading = 0 := by
  have hle : s.among Stage.isReading ≤ s.among Stage.isCounted :=
    among_le s fun st => by cases st <;> decide
  rw [← h.counted, h.drained hw] at hle
  exact Nat.le_zero.mp hle

/-- **Readers and writers exclude each other.** Whatever parties share a lock of either kind,
whatever sections they go through and in whatever order they take their steps: at most one write
guard is live, no read guard is live beside it, the count is the number of readers that were
counted in and not yet out, and a reader that is counted out makes it smaller by one. Read guards
do not exclude each other: there is a state in which all parties that begin as readers have
theirs. -/
theorem guards_exclude (kind : LockKind) (todos : List (List Mode)) :
    (∀ s, Reachable kind (todos.map Party.start) s →
      s.among Stage.isWriting ≤ 1 ∧
      (0 < s.among Stage.isWriting → s.among Stage.isReading = 0) ∧
      s.readers = s.among Stage.isCounted ∧
      ∀ i chosen t, s.stages[i]? = some .reading → s.step (.go i chosen) = some t →
        s.readers = t.readers + 1) ∧
    ∃ s, Reachable kind (todos.map Party.start) s ∧
      ∀ (i : Nat) (todo : List Mode), todos[i]? = some (.read :: todo) →
        s.stages[i]? = some .reading := by
  refine ⟨?_, readers_together kind todos⟩
  intro s hs
  have h := inv_of_reachable hs
  refine ⟨h.writing_le_one, h.not_reading, h.counted, ?_⟩
  intro i chosen t hi hstep
  have hpos := h.readers_pos hi rfl
  have hout := readers_of_leave hi hstep
  omega

end State
end Switchyard.Lock
