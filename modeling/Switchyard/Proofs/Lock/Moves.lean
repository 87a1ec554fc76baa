import Switchyard.Lock.Basic

/-!
# Switchyard.Proofs.Lock.Moves

What one step of a lock does. A step either leaves every party at its stage, and the turn, the gate
and the count as they are (`Rested`: a party goes to sleep or wakes), or it takes one party from one
stage to the next (`MovedTo`); there is no other kind (`step_moves`). The fourteen moves are listed
by `Moves`, each with what it asks of the shared part and what it does to it. `Rested` and `MovedTo`
also tell who sleeps afterwards. The invariants of a lock are read off this list and never off
`State.step`.
-/

namespace Switchyard.Lock

/-- What all parties share. -/
structure Shared where
  turnTaken : Bool
  gateTaken : Bool
  readers : Nat

namespace State

/-- The shared part of a lock. -/
def shared (s : State) : Shared :=
  ⟨s.turnTaken, s.gateTaken, s.readers⟩

/-- The stages of the parties. -/
def stages (s : State) : List Stage :=
  s.parties.map (·.stage)

/-- Whether the party in a place sleeps. -/
def sleeps (s : State) (i : Nat) : Bool :=
  (s.parties[i]?).any (·.asleep)

/-! ### What the parts of a step do to stages and to the shared part -/

@[simp] theorem stages_put (i : Nat) (p : Party) (s : State) :
    (s.put i p).stages = s.stages.set i p.stage := by
  simp [put, stages]

@[simp] theorem shared_put (i : Nat) (p : Party) (s : State) : (s.put i p).shared = s.shared := rfl

@[simp] theorem stages_setTaken (b : Bool) (permit : Permit) (s : State) :
    (s.setTaken b permit).stages = s.stages := by
  cases permit <;> rfl

@[simp] theorem stages_withReaders (n : Nat) (s : State) :
    ({ s with readers := n } : State).stages = s.stages := rfl

/-- Who wakes stays where it is. -/
@[simp] theorem stages_wake (i : Nat) (s : State) : (s.wake i).stages = s.stages := by
  apply List.ext_getElem?
  intro j
  simp only [wake, stages, List.getElem?_map, List.getElem?_modify]
  cases s.parties[j]? with
  | none => rfl
  | some p =>
      by_cases h : i = j
      · simp [h]
      · simp [h]

@[simp] theorem shared_wake (i : Nat) (s : State) : (s.wake i).shared = s.shared := rfl

@[simp] theorem stages_wakeDraining (s : State) : s.wakeDraining.stages = s.stages := by
  simp only [wakeDraining, stages, List.map_map]
  apply List.map_congr_left
  intro p _
  by_cases h : p.stage = .draining
  · simp [h]
  · simp [h]

@[simp] theorem shared_wakeDraining (s : State) : s.wakeDraining.shared = s.shared := rfl

@[simp] theorem stages_wakeChosen (chosen : Option Nat) (s : State) :
    (s.wakeChosen chosen).stages = s.stages := by
  cases chosen with
  | none => rfl
  | some j => exact stages_wake j s

@[simp] theorem shared_wakeChosen (chosen : Option Nat) (s : State) :
    (s.wakeChosen chosen).shared = s.shared := by
  cases chosen <;> rfl

/-! ### What they do to sleepers -/

@[simp] theorem sleeps_put_ne {i j : Nat} (p : Party) (s : State) (h : i ≠ j) :
    (s.put i p).sleeps j = s.sleeps j := by
  simp [sleeps, put, h]

theorem asleep_of_sleeps_put {i : Nat} {p : Party} {s : State} (h : (s.put i p).sleeps i = true) :
    p.asleep = true := by
  simp only [sleeps, put, List.getElem?_set_self'] at h
  cases hi : s.parties[i]? with
  | none => simp [hi] at h
  | some q => simpa [hi] using h

@[simp] theorem sleeps_setTaken (b : Bool) (permit : Permit) (s : State) (i : Nat) :
    (s.setTaken b permit).sleeps i = s.sleeps i := by
  cases permit <;> rfl

@[simp] theorem sleeps_wake (i j : Nat) (s : State) :
    (s.wake i).sleeps j = (s.sleeps j && i ≠ j) := by
  simp only [sleeps, wake, List.getElem?_modify]
  by_cases h : i = j
  · cases s.parties[j]? <;> simp [h]
  · cases s.parties[j]? <;> simp [h]

theorem sleeps_of_wakeChosen {chosen : Option Nat} {s : State} {j : Nat}
    (h : (s.wakeChosen chosen).sleeps j = true) : s.sleeps j = true := by
  cases chosen with
  | none => exact h
  | some i =>
      simp only [wakeChosen, sleeps_wake, Bool.and_eq_true] at h
      exact h.1

theorem sleeps_wakeDraining (s : State) (j : Nat) :
    s.wakeDraining.sleeps j = (s.sleeps j && s.stages[j]? ≠ some .draining) := by
  simp only [sleeps, wakeDraining, stages, List.getElem?_map]
  cases s.parties[j]? with
  | none => rfl
  | some p =>
      by_cases h : p.stage = .draining
      · simp [h]
      · simp [h]

end State

/-! ### Moves -/

/-- A party goes from one stage to another, and the shared part changes with it. -/
inductive Moves : Stage → Stage → Shared → Shared → Prop where
  /-- A reader comes. -/
  | enter {c : Shared} : Moves .idle .entering c c
  /-- A writer comes. -/
  | queue {c : Shared} : Moves .idle .queueing c c
  /-- A reader takes the gate. -/
  | takeGate {c : Shared} (h : c.gateTaken = false) :
      Moves .entering .counting c { c with gateTaken := true }
  /-- A reader is counted in. -/
  | count {c : Shared} : Moves .counting .passing c { c with readers := c.readers + 1 }
  /-- A reader gives the gate back. -/
  | pass {c : Shared} : Moves .passing .passed c { c with gateTaken := false }
  /-- A reader gets its guard. -/
  | read {c : Shared} : Moves .passed .reading c c
  /-- A reader is counted out. -/
  | leave {c : Shared} : Moves .reading .idle c { c with readers := c.readers - 1 }
  /-- A writer takes its turn. -/
  | turn {c : Shared} (h : c.turnTaken = false) :
      Moves .queueing .closing c { c with turnTaken := true }
  /-- A writer takes the gate. -/
  | close {c : Shared} (h : c.gateTaken = false) :
      Moves .closing .draining c { c with gateTaken := true }
  /-- A writer finds no reader left and gets its guard. -/
  | write {c : Shared} (h : c.readers = 0) : Moves .draining .writing c c
  /-- A writer gives the gate back. -/
  | reopen {c : Shared} : Moves .writing .opened c { c with gateTaken := false }
  /-- A writer has told of the gate. -/
  | yield {c : Shared} : Moves .opened .yielding c c
  /-- A writer gives its turn back. -/
  | pause {c : Shared} : Moves .yielding .yielded c { c with turnTaken := false }
  /-- A writer has told of its turn. -/
  | finish {c : Shared} : Moves .yielded .idle c c

/-- The permit that a party has given back and still has to tell of. -/
def Stage.tells : Stage → Option Permit
  | passed | opened => some .gate
  | yielded => some .turn
  | _ => none

/-- Who is before a permit has none to tell of. -/
theorem Stage.tells_of_wants {p : Stage} {permit : Permit} (h : p.wants = some permit) :
    p.tells = none := by
  cases p <;> simp [wants, tells] at h ⊢

namespace State

variable {s t u : State} {i : Nat} {p : Party}

/-- A party in a place has to wait: what it wants is taken, or readers are left. Between processes
only the second is a reason to sleep. -/
def Blocked (i : Nat) (s : State) : Prop :=
  ∃ p, s.stages[i]? = some p ∧
    ((s.kind = .thread ∧ ∃ permit, p.wants = some permit ∧ s.taken permit = true) ∨
      (p = .draining ∧ 0 < s.readers))

/-- Somebody sleeps until a permit is given back. -/
def Awaited (permit : Permit) (s : State) : Prop :=
  ∃ i p, s.stages[i]? = some p ∧ p.wants = some permit ∧ s.sleeps i = true

/-- Somebody awake is before a permit. -/
def Sought (permit : Permit) (s : State) : Prop :=
  ∃ i p, s.stages[i]? = some p ∧ p.wants = some permit ∧ s.sleeps i = false

/-- The state after `i` went from `p` to `q`. What the move does to the shared part is in `shared`;
the last three fields say what it does to those who sleep. -/
structure MovedTo (i : Nat) (p q : Stage) (s t : State) : Prop where
  here : s.stages[i]? = some p
  stages : t.stages = s.stages.set i q
  shared : Moves p q s.shared t.shared
  kind : t.kind = s.kind
  /-- Nobody falls asleep, and who moves is awake. -/
  sleeps : ∀ j, t.sleeps j = true → s.sleeps j = true ∧ j ≠ i
  /-- Between threads, who tells of a permit wakes one of those who sleep for it. -/
  told : ∀ permit, s.kind = .thread → p.tells = some permit → t.Awaited permit → t.Sought permit
  /-- The last reader wakes all writers that wait for the readers. -/
  drained : p = .reading → t.readers = 0 → ∀ j, t.stages[j]? = some .draining → t.sleeps j = false

/-- The state after a party went to sleep or woke. No stage and nothing that is shared has changed.
-/
structure Rested (s t : State) : Prop where
  stages : t.stages = s.stages
  shared : t.shared = s.shared
  kind : t.kind = s.kind
  /-- Who falls asleep has to wait. -/
  sleeps : ∀ j, t.sleeps j = true → s.sleeps j = true ∨ s.Blocked j

theorem stage_of_party (h : s.parties[i]? = some p) : s.stages[i]? = some p.stage := by
  simp [stages, h]

theorem sleeps_of_party (h : s.parties[i]? = some p) : s.sleeps i = p.asleep := by
  simp [sleeps, h]

/-- A party that has to wait goes to sleep where it is. -/
theorem rested_asleep (h : s.parties[i]? = some p) (hblocked : s.Blocked i) :
    Rested s (s.put i { p with asleep := true }) := by
  refine ⟨?_, rfl, rfl, ?_⟩
  · rw [stages_put]
    apply List.ext_getElem?
    intro j
    rw [List.getElem?_set]
    by_cases hj : i = j
    · subst hj
      have hlt : i < s.stages.length := (List.getElem?_eq_some_iff.mp (stage_of_party h)).1
      rw [if_pos rfl, if_pos hlt, stage_of_party h]
    · rw [if_neg hj]
  · intro j hj
    by_cases hij : i = j
    · exact .inr (hij ▸ hblocked)
    · rw [sleeps_put_ne _ _ hij] at hj
      exact .inl hj

/-- A party that wakes by itself stays where it is. -/
theorem rested_wake (i : Nat) (s : State) : Rested s (s.wake i) := by
  refine ⟨stages_wake i s, shared_wake i s, rfl, ?_⟩
  intro j hj
  simp only [sleeps_wake, Bool.and_eq_true] at hj
  exact .inl hj.1

/-- Nobody but the party that is put in its place can be asleep who was not. -/
theorem sleeps_of_put {q : Party} {j : Nat} (hq : q.asleep = false)
    (h : (u.put i q).sleeps j = true) : u.sleeps j = true ∧ j ≠ i := by
  by_cases hij : i = j
  · subst hij
    rw [asleep_of_sleeps_put h] at hq
    cases hq
  · rw [sleeps_put_ne _ _ hij] at h
    exact ⟨h, Ne.symm hij⟩

/-- A party that is awake goes to another stage, and may change the shared part. -/
theorem moved_put {a b : Stage} {q : Party} (hp : s.parties[i]? = some p) (ha : p.stage = a)
    (hq : q.asleep = false) (hb : q.stage = b) (hsame : u.parties = s.parties)
    (hkind : u.kind = s.kind) (hmove : Moves a b s.shared u.shared) (htells : a.tells = none)
    (hread : a ≠ .reading) : MovedTo i a b s (u.put i q) := by
  refine ⟨ha ▸ stage_of_party hp, ?_, hmove, hkind, ?_, ?_, ?_⟩
  · rw [stages_put, hb]
    simp [stages, hsame]
  · intro j hj
    have hbefore := sleeps_of_put hq hj
    simpa only [sleeps, hsame] using hbefore
  · intro permit _ h
    rw [htells] at h
    cases h
  · intro h
    exact absurd h hread

/-- A party that tries to take a permit takes it if it is free, and else goes to sleep; it can do so
only between threads. Between processes the attempt is no step, as the system makes it wait. -/
theorem acquire_cases {permit : Permit} {next : Stage} (h : s.acquire i p permit next = some t) :
    (s.taken permit = false ∧ t = (s.setTaken true permit).put i { p with stage := next }) ∨
      (s.taken permit = true ∧ s.kind = .thread ∧ t = s.put i { p with asleep := true }) := by
  unfold acquire at h
  by_cases htaken : s.taken permit = true
  · rw [if_pos htaken] at h
    cases hkind : s.kind with
    | thread =>
        rw [hkind] at h
        cases h
        exact .inr ⟨htaken, rfl, rfl⟩
    | process =>
        rw [hkind] at h
        cases h
  · rw [if_neg htaken] at h
    cases h
    exact .inl ⟨by simpa using htaken, rfl⟩

/-- Telling of a permit is one move of the party that tells. -/
theorem announce_eq {permit : Permit} {chosen : Option Nat} {next : Stage}
    (h : s.announce i p permit chosen next = some t) :
    s.mayWake permit chosen = true ∧
      t = (s.put i { p with stage := next }).wakeChosen chosen := by
  unfold announce at h
  by_cases hwake : s.mayWake permit chosen = true
  · rw [if_pos hwake] at h
    cases h
    exact ⟨hwake, rfl⟩
  · rw [if_neg hwake] at h
    cases h

/-- Between threads, whoever is woken sleeps for the permit; nobody is only if nobody does. -/
theorem mayWake_thread {permit : Permit} {chosen : Option Nat} (hkind : s.kind = .thread)
    (h : s.mayWake permit chosen = true) :
    match chosen with
    | some j => ∃ p, s.parties[j]? = some p ∧ p.awaits permit = true
    | none => ∀ p ∈ s.parties, p.awaits permit = false := by
  unfold mayWake at h
  rw [hkind] at h
  cases chosen with
  | some j => simpa [Option.any_eq_true] using h
  | none => simpa using h

theorem awaits_iff {permit : Permit} :
    p.awaits permit = true ↔ p.asleep = true ∧ p.stage.wants = some permit := by
  simp [Party.awaits]

/-- A party that tells of a permit goes on. Between threads it wakes somebody who sleeps for the
permit if anybody does, and whoever is woken is then awake before that permit. -/
theorem moved_announce {permit : Permit} {chosen : Option Nat} {a next : Stage}
    (hp : s.parties[i]? = some p) (ha : p.stage = a) (hawake : p.asleep = false)
    (h : s.announce i p permit chosen next = some t) (hmove : Moves a next s.shared s.shared)
    (htells : a.tells = some permit) : MovedTo i a next s t := by
  obtain ⟨hwake, rfl⟩ := announce_eq h
  have hslept (j : Nat)
      (h : ((s.put i { p with stage := next }).wakeChosen chosen).sleeps j = true) :
      s.sleeps j = true ∧ j ≠ i :=
    sleeps_of_put (q := { p with stage := next }) hawake (sleeps_of_wakeChosen h)
  refine ⟨ha ▸ stage_of_party hp, by simp, by simpa using hmove, ?_, hslept, ?_, ?_⟩
  · cases chosen <;> rfl
  · intro other hkind htold hawaited
    obtain rfl : permit = other := Option.some.inj (htells.symm.trans htold)
    have hchosen := mayWake_thread hkind hwake
    cases chosen with
    | none =>
        -- Nobody slept for the permit, and so nobody does now.
        obtain ⟨j, st, hst, hwants, hsleeps⟩ := hawaited
        obtain ⟨hbefore, hji⟩ := hslept j hsleeps
        simp only [stages_wakeChosen, stages_put] at hst
        rw [List.getElem?_set_ne (Ne.symm hji)] at hst
        simp only [stages, List.getElem?_map, Option.map_eq_some_iff] at hst
        obtain ⟨q, hq, rfl⟩ := hst
        rw [sleeps_of_party hq] at hbefore
        have hnot := hchosen q (List.mem_of_getElem? hq)
        rw [awaits_iff.mpr ⟨hbefore, hwants⟩] at hnot
        cases hnot
    | some j =>
        -- The one who was woken is awake and before the permit.
        obtain ⟨q, hq, hawaits⟩ := hchosen
        obtain ⟨hasleep, hwants⟩ := awaits_iff.mp hawaits
        have hij : i ≠ j := by
          rintro rfl
          obtain rfl : p = q := Option.some.inj (hp.symm.trans hq)
          rw [hawake] at hasleep
          cases hasleep
        refine ⟨j, q.stage, ?_, hwants, by simp [wakeChosen]⟩
        simp only [stages_wakeChosen, stages_put]
        rw [List.getElem?_set_ne hij]
        exact stage_of_party hq
  · rintro rfl
    cases htells

/-- A party that tries to take a permit goes on with it, or goes to sleep where it is. -/
theorem moved_acquire {permit : Permit} {a next : Stage} (hp : s.parties[i]? = some p)
    (ha : p.stage = a) (hawake : p.asleep = false) (h : s.acquire i p permit next = some t)
    (hwants : a.wants = some permit)
    (hmove : s.taken permit = false → Moves a next s.shared (s.setTaken true permit).shared) :
    Rested s t ∨ MovedTo i a next s t := by
  rcases acquire_cases h with ⟨hfree, rfl⟩ | ⟨htaken, hkind, rfl⟩
  · have hread : a ≠ .reading := by
      rintro rfl
      cases hwants
    have hsame : (s.setTaken true permit).parties = s.parties := by cases permit <;> rfl
    have hkind : (s.setTaken true permit).kind = s.kind := by cases permit <;> rfl
    exact .inr (moved_put hp ha hawake rfl hsame hkind (hmove hfree)
      (Stage.tells_of_wants hwants) hread)
  · exact .inl (rested_asleep hp
      ⟨a, ha ▸ stage_of_party hp, .inl ⟨hkind, permit, hwants, htaken⟩⟩)

/-- A reader is counted out, and the last one wakes the writers that wait. It is the only move that
wakes more than one. -/
theorem moved_leave (hp : s.parties[i]? = some p) (ha : p.stage = .reading)
    (hawake : p.asleep = false) (hu : u = { s with readers := s.readers - 1 }.put i
      { p with stage := .idle }) (ht : t = if u.readers = 0 then u.wakeDraining else u) :
    MovedTo i .reading .idle s t := by
  have hslept (j : Nat) (h : u.sleeps j = true) : s.sleeps j = true ∧ j ≠ i := by
    subst hu
    exact sleeps_of_put (q := { p with stage := .idle }) hawake h
  have hstages : u.stages = s.stages.set i .idle := by simp [hu]
  have hshared : u.shared = { s.shared with readers := s.readers - 1 } := by rw [hu]; rfl
  have hkind : u.kind = s.kind := by rw [hu]; rfl
  have hhere : s.stages[i]? = some .reading := ha ▸ stage_of_party hp
  by_cases hlast : u.readers = 0
  · rw [if_pos hlast] at ht
    subst ht
    refine ⟨hhere, by simp [hstages], by simpa [hshared] using .leave, hkind, ?_, nofun, ?_⟩
    · intro j hj
      rw [sleeps_wakeDraining, Bool.and_eq_true] at hj
      exact hslept j hj.1
    · intro _ _ j hj
      rw [stages_wakeDraining] at hj
      rw [sleeps_wakeDraining, hj]
      simp
  · rw [if_neg hlast] at ht
    subst ht
    refine ⟨hhere, hstages, hshared ▸ .leave, hkind, hslept, nofun, ?_⟩
    intro _ hzero
    exact absurd hzero hlast

theorem advance_moves {chosen : Option Nat} (hp : s.parties[i]? = some p)
    (hawake : p.asleep = false) (h : s.advance i p chosen = some t) :
    Rested s t ∨ ∃ q, MovedTo i p.stage q s t := by
  unfold advance at h
  cases hstage : p.stage with
  | idle =>
      rw [hstage] at h
      cases htodo : p.todo with
      | nil => simp [htodo] at h
      | cons mode todo =>
          cases mode with
          | read =>
              simp only [htodo] at h
              cases h
              exact .inr ⟨.entering, moved_put hp hstage hawake rfl rfl rfl .enter rfl nofun⟩
          | write =>
              simp only [htodo] at h
              cases h
              exact .inr ⟨.queueing, moved_put hp hstage hawake rfl rfl rfl .queue rfl nofun⟩
  | entering =>
      rw [hstage] at h
      rcases moved_acquire hp hstage hawake h rfl (fun hfree => .takeGate hfree) with hrest | hmove
      · exact .inl hrest
      · exact .inr ⟨.counting, hmove⟩
  | counting =>
      rw [hstage] at h
      cases h
      exact .inr ⟨.passing, moved_put hp hstage hawake rfl rfl rfl .count rfl nofun⟩
  | passing =>
      rw [hstage] at h
      cases h
      exact .inr ⟨.passed, moved_put hp hstage hawake rfl rfl rfl .pass rfl nofun⟩
  | passed =>
      rw [hstage] at h
      exact .inr ⟨.reading, moved_announce hp hstage hawake h .read rfl⟩
  | reading =>
      rw [hstage] at h
      exact .inr ⟨.idle, moved_leave hp hstage hawake rfl (Option.some.inj h).symm⟩
  | queueing =>
      rw [hstage] at h
      rcases moved_acquire hp hstage hawake h rfl (fun hfree => .turn hfree) with hrest | hmove
      · exact .inl hrest
      · exact .inr ⟨.closing, hmove⟩
  | closing =>
      rw [hstage] at h
      rcases moved_acquire hp hstage hawake h rfl (fun hfree => .close hfree) with hrest | hmove
      · exact .inl hrest
      · exact .inr ⟨.draining, hmove⟩
  | draining =>
      rw [hstage] at h
      dsimp only at h
      by_cases hzero : s.readers = 0
      · rw [if_pos hzero] at h
        cases h
        exact .inr ⟨.writing, moved_put hp hstage hawake rfl rfl rfl (.write hzero) rfl nofun⟩
      · rw [if_neg hzero] at h
        cases h
        have hblocked : s.Blocked i :=
          ⟨.draining, hstage ▸ stage_of_party hp, .inr ⟨rfl, Nat.pos_of_ne_zero hzero⟩⟩
        exact .inl (hstage ▸ rested_asleep hp hblocked)
  | writing =>
      rw [hstage] at h
      cases h
      exact .inr ⟨.opened, moved_put hp hstage hawake rfl rfl rfl .reopen rfl nofun⟩
  | opened =>
      rw [hstage] at h
      exact .inr ⟨.yielding, moved_announce hp hstage hawake h .yield rfl⟩
  | yielding =>
      rw [hstage] at h
      cases h
      exact .inr ⟨.yielded, moved_put hp hstage hawake rfl rfl rfl .pause rfl nofun⟩
  | yielded =>
      rw [hstage] at h
      exact .inr ⟨.idle, moved_announce hp hstage hawake h .finish rfl⟩

/-- **One step is one move or none.** -/
theorem step_moves {e : Event} (h : s.step e = some t) :
    Rested s t ∨ ∃ i chosen p q, e = .go i chosen ∧ MovedTo i p q s t := by
  cases e with
  | go i chosen =>
      unfold step at h
      cases hp : s.parties[i]? with
      | none => simp [hp] at h
      | some p =>
          simp only [hp] at h
          by_cases hasleep : p.asleep = true
          · rw [if_pos hasleep] at h
            cases h
          · rw [if_neg hasleep] at h
            rcases advance_moves hp (by simpa using hasleep) h with hrest | ⟨q, hmove⟩
            · exact .inl hrest
            · exact .inr ⟨i, chosen, p.stage, q, rfl, hmove⟩
  | stir i =>
      unfold step at h
      cases hp : s.parties[i]? with
      | none => simp [hp] at h
      | some p =>
          simp only [hp] at h
          by_cases hasleep : p.asleep = true
          · rw [if_pos hasleep] at h
            cases h
            exact .inl (rested_wake i s)
          · rw [if_neg hasleep] at h
            cases h

/-- A reader in its section has one thing to do next: to be counted out. -/
theorem readers_of_leave {chosen : Option Nat} (hi : s.stages[i]? = some .reading)
    (h : s.step (.go i chosen) = some t) : t.readers = s.readers - 1 := by
  simp only [stages, List.getElem?_map, Option.map_eq_some_iff] at hi
  obtain ⟨p, hp, hstage⟩ := hi
  unfold step at h
  simp only [hp] at h
  by_cases hasleep : p.asleep = true
  · rw [if_pos hasleep] at h
    cases h
  · rw [if_neg hasleep] at h
    unfold advance at h
    simp only [hstage, Option.some.injEq] at h
    subst h
    split <;> rfl

/-! ### Runs -/

/-- A run of steps in which every state meets a condition, the first and the last among them. It may
begin in any state, reachable or not. -/
inductive Along (C : State → Prop) : State → State → Prop where
  | here {s : State} (h : C s) : Along C s s
  | step {s t u : State} (e : Event) : Along C s t → t.step e = some u → C u → Along C s u

namespace Along

variable {C D : State → Prop} {kind : LockKind} {parties : List Party}

theorem last (h : Along C s t) : C t := by
  cases h with
  | here h => exact h
  | step _ _ _ h => exact h

theorem imp (hCD : ∀ s, C s → D s) (h : Along C s t) : Along D s t := by
  induction h with
  | here h => exact .here (hCD _ h)
  | step e _ hstep hC ih => exact ih.step e hstep (hCD _ hC)

theorem reachable (h : Along C s t) (hs : Reachable kind parties s) : Reachable kind parties t := by
  induction h with
  | here _ => exact hs
  | step e _ hstep _ ih => exact ih.step e hstep

end Along
end State
end Switchyard.Lock
