import Switchyard.Proofs.Lock.Exclusion

/-!
# Switchyard.Proofs.Lock.Progress

**A lock never gets stuck.** While the section of some party is still to come or not over, some
party can go on to its next stage (`moves_iff_unfinished`): it need not wake by itself first, and it
does not just go back to sleep.

* No wake-up is lost (`Roused`): whenever somebody sleeps for a permit that is free, somebody else
  has still to tell of it, or somebody awake is about to take it. A newcomer may take the permit
  before the one who was woken, but then it is taken again, and told of again.
* A party that is not before a permit and not before the readers can always go on
  (`canMove_of_busy`). If there is no such party, nobody holds the gate but a writer that waits for
  the readers, and no reader is left: so that writer, or else somebody before the gate, or else
  somebody before the turn, goes on (`canMove_of_unfinished`).

Both parts of the argument are invariants, of which `Inv` is that of
`Switchyard.Proofs.Lock.Exclusion`. `Roused` needs its three parts together: that a permit will be
told of is worth nothing to a party that sleeps for another reason (`waits`), and the writer that
waits for the readers is woken in another way than the others (`drained`). Processes do not sleep
before a permit but wait for the system, so there the part about permits holds because nobody
sleeps.

The hypothesis in the second part is always that nobody can go on, and from there the parties are
excluded one stage after another.
-/

namespace Switchyard.Lock

namespace Stage

/-- Before a permit, or before the readers. -/
def isWaiting : Stage → Bool
  | entering | queueing | closing | draining => true
  | _ => false

theorem cases_of_waiting {p : Stage} (h : p.isWaiting = true) :
    p = entering ∨ p = queueing ∨ p = closing ∨ p = draining := by
  cases p <;> simp [isWaiting] at h ⊢

theorem waiting_of_wants {p : Stage} (h : p.wants ≠ none) : p.isWaiting = true := by
  cases p <;> simp [wants, isWaiting] at h ⊢

end Stage

/-- Whether all sections of a party are over. -/
def Party.isDone (p : Party) : Bool :=
  p.stage = .idle && p.todo.isEmpty

/-- Whether a permit is taken. -/
def Shared.taken (c : Shared) : Permit → Bool
  | .turn => c.turnTaken
  | .gate => c.gateTaken

/-- Who moves while a permit is free afterwards has just given it back, or has just told of it, or
has nothing to do with it. In the last case it was free before. -/
theorem Moves.taken_cases {p q : Stage} {c d : Shared} (permit : Permit) (h : Moves p q c d)
    (hfree : d.taken permit = false) :
    q.tells = some permit ∨ p.tells = some permit ∨
      (c.taken permit = false ∧ p.tells ≠ some permit ∧ p.wants ≠ some permit) := by
  cases h <;> cases permit <;> simp_all [Shared.taken, Stage.tells, Stage.wants]

/-- A reader is counted out, or the count stays above zero. No other move makes it smaller. -/
theorem Moves.readers_pos {p q : Stage} {c d : Shared} (h : Moves p q c d) (hc : 0 < c.readers)
    (hp : p ≠ .reading) : 0 < d.readers := by
  cases h <;> simp_all

theorem Moves.ne {p q : Stage} {c d : Shared} (h : Moves p q c d) : q ≠ p := by
  cases h <;> decide

namespace State

variable {s t : State} {i : Nat} {p q : Stage} {permit : Permit} {kind : LockKind}

theorem taken_shared (s : State) (permit : Permit) : s.shared.taken permit = s.taken permit := by
  cases permit <;> rfl

/-! ### No wake-up is lost -/

/-- Somebody awake has still to tell of a permit: it has given the permit back and not yet woken
anybody. -/
def Told (permit : Permit) (s : State) : Prop :=
  ∃ i p, s.stages[i]? = some p ∧ p.tells = some permit ∧ s.sleeps i = false

/-- Who sleeps has a reason to, and will be woken. This is what a lost wake-up would break. -/
structure Roused (s : State) : Prop where
  /-- Who sleeps is before a permit, which happens only between threads, or before the readers. -/
  waits : ∀ i p, s.sleeps i = true → s.stages[i]? = some p →
    (s.kind = .thread ∧ p.wants ≠ none) ∨ p = .draining
  /-- A free permit that somebody sleeps for is still to be told of, or about to be taken. -/
  told : ∀ permit, s.taken permit = false → s.Awaited permit → s.Told permit ∨ s.Sought permit
  /-- A writer sleeps before the readers only while there are some. -/
  drained : ∀ i, s.sleeps i = true → s.stages[i]? = some .draining → 0 < s.readers

theorem roused_start (todos : List (List Mode)) :
    Roused (start kind (todos.map Party.start)) := by
  have hawake (i : Nat) : (start kind (todos.map Party.start)).sleeps i = false := by
    simp only [sleeps, start, List.getElem?_map]
    cases todos[i]? <;> rfl
  refine ⟨?_, ?_, ?_⟩
  · intro i p hsleeps
    rw [hawake] at hsleeps
    cases hsleeps
  · rintro permit - ⟨i, p, -, -, hsleeps⟩
    rw [hawake] at hsleeps
    cases hsleeps
  · intro i hsleeps
    rw [hawake] at hsleeps
    cases hsleeps

theorem Rested.taken (h : Rested s t) (permit : Permit) : t.taken permit = s.taken permit := by
  rw [← taken_shared, ← taken_shared, h.shared]

/-- Who is awake and not blocked stays awake while others fall asleep. To fall asleep before a
permit, one has to find it taken. -/
theorem Rested.awake (h : Rested s t) (hfree : s.taken permit = false) (hi : s.stages[i]? = some p)
    (hp : p.tells = some permit ∨ p.wants = some permit) (hawake : s.sleeps i = false) :
    t.sleeps i = false := by
  cases hsleeps : t.sleeps i with
  | false => rfl
  | true =>
      exfalso
      rcases h.sleeps i hsleeps with hbefore | ⟨q, hq, hblocked⟩
      · rw [hawake] at hbefore
        cases hbefore
      · obtain rfl : p = q := Option.some.inj (hi.symm.trans hq)
        rcases hblocked with ⟨-, other, hwants, htaken⟩ | ⟨rfl, -⟩
        · rcases hp with htells | hsame
          · rw [Stage.tells_of_wants hwants] at htells
            cases htells
          · obtain rfl : permit = other := Option.some.inj (hsame.symm.trans hwants)
            rw [hfree] at htaken
            cases htaken
        · rcases hp with htells | hwants
          · cases htells
          · cases hwants

/-- A step that only puts to sleep or wakes loses no wake-up. Who has just gone to sleep found its
permit taken, so that nothing is said of it yet. -/
theorem roused_rested (h : Roused s) (hrest : Rested s t) : Roused t := by
  have hreaders : t.readers = s.readers := congrArg Shared.readers hrest.shared
  refine ⟨?_, ?_, ?_⟩
  · intro i p hsleeps hi
    rw [hrest.stages] at hi
    rw [hrest.kind]
    rcases hrest.sleeps i hsleeps with hbefore | ⟨q, hq, hblocked⟩
    · exact h.waits i p hbefore hi
    · obtain rfl : p = q := Option.some.inj (hi.symm.trans hq)
      rcases hblocked with ⟨hkind, permit, hwants, -⟩ | ⟨hdraining, -⟩
      · exact .inl ⟨hkind, by simp [hwants]⟩
      · exact .inr hdraining
  · rintro permit hfree ⟨i, p, hi, hwants, hsleeps⟩
    rw [hrest.taken] at hfree
    rw [hrest.stages] at hi
    have hbefore : s.Told permit ∨ s.Sought permit := by
      cases hslept : s.sleeps i with
      | true => exact h.told permit hfree ⟨i, p, hi, hwants, hslept⟩
      | false => exact .inr ⟨i, p, hi, hwants, hslept⟩
    rcases hbefore with ⟨j, q, hj, htells, hawake⟩ | ⟨j, q, hj, hwants, hawake⟩
    · exact .inl ⟨j, q, hrest.stages ▸ hj, htells, hrest.awake hfree hj (.inl htells) hawake⟩
    · exact .inr ⟨j, q, hrest.stages ▸ hj, hwants, hrest.awake hfree hj (.inr hwants) hawake⟩
  · intro i hsleeps hi
    rw [hrest.stages] at hi
    rw [hreaders]
    rcases hrest.sleeps i hsleeps with hbefore | ⟨q, hq, hblocked⟩
    · exact h.drained i hbefore hi
    · rw [hi] at hq
      cases hq
      rcases hblocked with ⟨-, permit, hwants, -⟩ | ⟨-, hpos⟩
      · cases hwants
      · exact hpos

theorem MovedTo.there (h : MovedTo i p q s t) : t.stages[i]? = some q := by
  have hlt : i < s.stages.length := (List.getElem?_eq_some_iff.mp h.here).1
  rw [h.stages, List.getElem?_set_self hlt]

theorem MovedTo.elsewhere (h : MovedTo i p q s t) {j : Nat} (hj : j ≠ i) :
    t.stages[j]? = s.stages[j]? := by
  rw [h.stages, List.getElem?_set_ne (Ne.symm hj)]

/-- Who moves is awake afterwards, and so is whoever was awake. -/
theorem MovedTo.awake (h : MovedTo i p q s t) {j : Nat} (hj : j = i ∨ s.sleeps j = false) :
    t.sleeps j = false := by
  cases hsleeps : t.sleeps j with
  | false => rfl
  | true =>
      obtain ⟨hbefore, hne⟩ := h.sleeps j hsleeps
      rcases hj with rfl | hawake
      · exact absurd rfl hne
      · rw [hawake] at hbefore
        cases hbefore

/-- A move loses no wake-up. For a permit that is free afterwards it matters what the move had to do
with it; for the readers, whether it was the last of them that left. -/
theorem roused_moved (h : Roused s) (hmove : MovedTo i p q s t) : Roused t := by
  refine ⟨?_, ?_, ?_⟩
  · intro j st hsleeps hj
    obtain ⟨hbefore, hne⟩ := hmove.sleeps j hsleeps
    rw [hmove.elsewhere hne] at hj
    rw [hmove.kind]
    exact h.waits j st hbefore hj
  · intro permit hfree hawaited
    obtain ⟨j, st, hj, hwants, hsleeps⟩ := hawaited
    obtain ⟨hslept, hne⟩ := hmove.sleeps j hsleeps
    have hbefore := hj
    rw [hmove.elsewhere hne] at hbefore
    have hfree' : t.shared.taken permit = false := by rw [taken_shared, hfree]
    rcases hmove.shared.taken_cases permit hfree' with htells | htold | ⟨hwas, hpt, hpw⟩
    · -- The party that moved has given the permit back.
      exact .inl ⟨i, q, hmove.there, htells, hmove.awake (.inl rfl)⟩
    · -- It has told of the permit: only between threads does anybody sleep for it.
      rcases h.waits j st hslept hbefore with ⟨hkind, -⟩ | rfl
      · exact .inr (hmove.told permit hkind htold ⟨j, st, hj, hwants, hsleeps⟩)
      · cases hwants
    · -- It has nothing to do with the permit, and whoever has is where it was.
      rw [taken_shared] at hwas
      rcases h.told permit hwas ⟨j, st, hbefore, hwants, hslept⟩ with
        ⟨k, r, hk, htells, hawake⟩ | ⟨k, r, hk, hkwants, hawake⟩
      · have hki : k ≠ i := by
          rintro rfl
          rw [hmove.here] at hk
          cases hk
          exact hpt htells
        exact .inl ⟨k, r, hmove.elsewhere hki ▸ hk, htells, hmove.awake (.inr hawake)⟩
      · have hki : k ≠ i := by
          rintro rfl
          rw [hmove.here] at hk
          cases hk
          exact hpw hkwants
        exact .inr ⟨k, r, hmove.elsewhere hki ▸ hk, hkwants, hmove.awake (.inr hawake)⟩
  · intro j hsleeps hj
    obtain ⟨hslept, hne⟩ := hmove.sleeps j hsleeps
    have hbefore := hj
    rw [hmove.elsewhere hne] at hbefore
    have hpos := h.drained j hslept hbefore
    by_cases hp : p = .reading
    · -- A reader left: had it been the last one, the writer would have been woken.
      refine Nat.pos_of_ne_zero ?_
      intro hzero
      rw [hmove.drained hp hzero j hj] at hsleeps
      cases hsleeps
    · exact hmove.shared.readers_pos hpos hp

theorem roused_step {e : Event} (h : Roused s) (hstep : s.step e = some t) : Roused t := by
  rcases step_moves hstep with hrest | ⟨i, chosen, p, q, -, hmove⟩
  · exact roused_rested h hrest
  · exact roused_moved h hmove

theorem roused_of_reachable {todos : List (List Mode)}
    (h : Reachable kind (todos.map Party.start) s) : Roused s := by
  induction h with
  | start => exact roused_start todos
  | step e _ hstep ih => exact roused_step ih hstep

/-! ### Who can go on -/

/-- Some party can go on to its next stage. -/
def CanMove (s : State) : Prop :=
  ∃ i chosen t, s.step (.go i chosen) = some t ∧ t.stages ≠ s.stages

/-- A party that is awake and whose next step takes it to another stage can go on. -/
theorem canMove_of_advance {party : Party} {chosen : Option Nat}
    (hp : s.parties[i]? = some party) (hawake : party.asleep = false)
    (h : s.advance i party chosen = some t) (hthere : t.stages = s.stages.set i q)
    (hne : q ≠ party.stage) : CanMove s := by
  refine ⟨i, chosen, t, ?_, ?_⟩
  · unfold step
    simp [hp, hawake, h]
  · intro hsame
    have hhere := stage_of_party hp
    have hlt : i < s.stages.length := (List.getElem?_eq_some_iff.mp hhere).1
    have hget : t.stages[i]? = some q := by rw [hthere, List.getElem?_set_self hlt]
    rw [hsame, hhere] at hget
    exact hne (Option.some.inj hget).symm

/-- Whoever has to wake a sleeper finds one, or finds that there is none. -/
theorem exists_mayWake (s : State) (permit : Permit) : ∃ chosen, s.mayWake permit chosen = true := by
  cases hkind : s.kind with
  | process => exact ⟨none, by simp [mayWake, hkind]⟩
  | thread =>
      cases hany : s.parties.any (·.awaits permit) with
      | false => exact ⟨none, by simp [mayWake, hkind, hany]⟩
      | true =>
          obtain ⟨party, hmem, hawaits⟩ := List.any_eq_true.mp hany
          obtain ⟨j, hj⟩ := List.mem_iff_getElem?.mp hmem
          exact ⟨some j, by simp [mayWake, hkind, hj, hawaits]⟩

/-- Who has to tell of a permit can always do so. -/
theorem exists_announce (s : State) (i : Nat) (party : Party) (permit : Permit) (next : Stage) :
    ∃ chosen t, s.announce i party permit chosen next = some t ∧
      t.stages = s.stages.set i next := by
  obtain ⟨chosen, hwake⟩ := s.exists_mayWake permit
  refine ⟨chosen, _, if_pos hwake, ?_⟩
  simp

/-- A party that is neither before a permit nor before the readers can go on, if there is anything
left for it to do. One case for each stage: such a step depends on nothing that another party does.
-/
theorem canMove_of_busy {party : Party} (hp : s.parties[i]? = some party)
    (hawake : party.asleep = false) (hbusy : party.stage.isWaiting = false)
    (htodo : party.stage = .idle → party.todo ≠ []) : CanMove s := by
  have hgo (chosen : Option Nat) {t : State} (q : Stage) (h : s.advance i party chosen = some t)
      (hthere : t.stages = s.stages.set i q) (hne : q ≠ party.stage) : CanMove s :=
    canMove_of_advance hp hawake h hthere hne
  unfold advance at hgo
  cases hstage : party.stage <;> simp only [hstage] at hgo
  case idle =>
    cases hmodes : party.todo with
    | nil => exact absurd hmodes (htodo hstage)
    | cons mode modes =>
        simp only [hmodes] at hgo
        cases mode with
        | read => exact hgo none .entering rfl (by simp) nofun
        | write => exact hgo none .queueing rfl (by simp) nofun
  case counting => exact hgo none .passing rfl (by simp) nofun
  case passing => exact hgo none .passed rfl (by simp) nofun
  case passed =>
    obtain ⟨chosen, t, htell, hthere⟩ := s.exists_announce i party .gate .reading
    exact hgo chosen .reading htell hthere nofun
  case reading =>
    refine hgo none .idle rfl ?_ nofun
    split <;> simp
  case writing => exact hgo none .opened rfl (by simp) nofun
  case opened =>
    obtain ⟨chosen, t, htell, hthere⟩ := s.exists_announce i party .gate .yielding
    exact hgo chosen .yielding htell hthere nofun
  case yielding => exact hgo none .yielded rfl (by simp) nofun
  case yielded =>
    obtain ⟨chosen, t, htell, hthere⟩ := s.exists_announce i party .turn .idle
    exact hgo chosen .idle htell hthere nofun
  all_goals
    rw [hstage] at hbusy
    cases hbusy

theorem party_of_stage (h : s.stages[i]? = some p) :
    ∃ party, s.parties[i]? = some party ∧ party.stage = p := by
  simpa [stages] using h

/-- Who is awake before a free permit takes it. -/
theorem canMove_of_sought (hfree : s.taken permit = false) (h : s.Sought permit) : CanMove s := by
  obtain ⟨i, p, hi, hwants, hawake⟩ := h
  obtain ⟨party, hp, rfl⟩ := party_of_stage hi
  rw [sleeps_of_party hp] at hawake
  have htake (next : Stage) : ∃ t, s.acquire i party permit next = some t ∧
      t.stages = s.stages.set i next := by
    refine ⟨_, if_neg (by simp [hfree]), ?_⟩
    simp
  have hgo {t : State} (q : Stage) (h : s.advance i party none = some t)
      (hthere : t.stages = s.stages.set i q) (hne : q ≠ party.stage) : CanMove s :=
    canMove_of_advance hp hawake h hthere hne
  unfold advance at hgo
  cases hstage : party.stage <;> rw [hstage] at hwants hgo <;> cases hwants
  case entering =>
    obtain ⟨t, ht, hthere⟩ := htake .counting
    exact hgo .counting ht hthere nofun
  case queueing =>
    obtain ⟨t, ht, hthere⟩ := htake .closing
    exact hgo .closing ht hthere nofun
  case closing =>
    obtain ⟨t, ht, hthere⟩ := htake .draining
    exact hgo .draining ht hthere nofun

/-- Where a permit is free and nobody has to tell of it, whoever is before it can take it: if all of
them slept, a wake-up would have been lost. The one who takes it need not be the one who is named
here. -/
theorem canMove_of_free (h : Roused s) (hfree : s.taken permit = false) (htold : ¬ s.Told permit)
    (hi : s.stages[i]? = some p) (hwants : p.wants = some permit) : CanMove s := by
  cases hsleeps : s.sleeps i with
  | false => exact canMove_of_sought hfree ⟨i, p, hi, hwants, hsleeps⟩
  | true =>
      rcases h.told permit hfree ⟨i, p, hi, hwants, hsleeps⟩ with htells | hsought
      · exact absurd htells htold
      · exact canMove_of_sought hfree hsought

/-- A writer that finds no reader left goes on, and does not sleep. -/
theorem canMove_of_drained (h : Roused s) (hzero : s.readers = 0)
    (hi : s.stages[i]? = some .draining) : CanMove s := by
  obtain ⟨party, hp, hstage⟩ := party_of_stage hi
  have hawake : party.asleep = false := by
    rw [← sleeps_of_party hp]
    cases hsleeps : s.sleeps i with
    | false => rfl
    | true =>
        have hpos := h.drained i hsleeps hi
        omega
  have hgo : s.advance i party none = some (s.put i { party with stage := .writing }) := by
    unfold advance
    rw [hstage]
    exact if_pos hzero
  exact canMove_of_advance hp hawake hgo (stages_put ..) (by simp [hstage])

/-- Nobody is counted at stages of a kind if nobody is at them. -/
theorem among_eq_zero {P : Stage → Bool} (h : ∀ (i : Nat) p, s.stages[i]? = some p → P p = false) :
    s.among P = 0 := by
  refine List.countP_eq_zero.mpr ?_
  intro p hp
  obtain ⟨i, hi⟩ := List.mem_iff_getElem?.mp hp
  simp [h i p hi]

/-! ### Somebody can -/

/-- Who sleeps is before a permit or before the readers. -/
theorem waiting_of_asleep (h : Roused s) {party : Party} (hp : s.parties[i]? = some party)
    (hasleep : party.asleep = true) : party.stage.isWaiting = true := by
  rw [← sleeps_of_party hp] at hasleep
  rcases h.waits i _ hasleep (stage_of_party hp) with ⟨-, hwants⟩ | hdraining
  · exact Stage.waiting_of_wants hwants
  · rw [hdraining]
    rfl

/-- Who cannot go on is before a permit or before the readers, or is done. In particular it holds no
gate unless it is a writer that waits for the readers. -/
theorem waiting_or_done (h : Roused s) (hstuck : ¬ CanMove s) {party : Party}
    (hp : s.parties[i]? = some party) :
    party.stage.isWaiting = true ∨ party.isDone = true := by
  cases hwaiting : party.stage.isWaiting with
  | true => exact .inl rfl
  | false =>
      right
      have hawake : party.asleep = false := by
        cases hasleep : party.asleep with
        | false => rfl
        | true =>
            rw [waiting_of_asleep h hp hasleep] at hwaiting
            cases hwaiting
      cases hdone : party.isDone with
      | true => rfl
      | false =>
          refine absurd (canMove_of_busy hp hawake hwaiting ?_) hstuck
          intro hidle htodo
          simp [Party.isDone, hidle, htodo] at hdone

/-- **Somebody can go on** unless all sections are over. -/
theorem canMove_of_unfinished (hinv : Inv s) (h : Roused s)
    (hbusy : ∃ party ∈ s.parties, party.isDone = false) : CanMove s := by
  by_cases hstuck : CanMove s
  · exact hstuck
  exfalso
  have hstage (i : Nat) (p : Stage) (hi : s.stages[i]? = some p) :
      p = .idle ∨ p = .entering ∨ p = .queueing ∨ p = .closing ∨ p = .draining := by
    obtain ⟨party, hp, rfl⟩ := party_of_stage hi
    rcases waiting_or_done h hstuck hp with hwaiting | hdone
    · exact .inr (Stage.cases_of_waiting hwaiting)
    · simp only [Party.isDone, Bool.and_eq_true, decide_eq_true_eq] at hdone
      exact .inl hdone.1
  have hfree (permit : Permit) (hfree : s.taken permit = false) (i : Nat) (p : Stage)
      (hi : s.stages[i]? = some p) : p.wants ≠ some permit := by
    intro hwants
    refine hstuck (canMove_of_free h hfree ?_ hi hwants)
    rintro ⟨j, q, hj, htells, -⟩
    rcases hstage j q hj with rfl | rfl | rfl | rfl | rfl <;> cases htells
  -- No reader is counted, so no writer waits for the readers.
  have hzero : s.readers = 0 := by
    rw [hinv.counted]
    refine among_eq_zero ?_
    intro i p hi
    rcases hstage i p hi with rfl | rfl | rfl | rfl | rfl <;> rfl
  have hdrained (i : Nat) (p : Stage) (hi : s.stages[i]? = some p) : p ≠ .draining := by
    rintro rfl
    exact hstuck (canMove_of_drained h hzero hi)
  -- So nobody holds the gate, and nobody can be before it.
  have hgate : s.gateTaken = false := by
    have hnone : s.among Stage.holdsGate = 0 := by
      refine among_eq_zero ?_
      intro i p hi
      rcases hstage i p hi with rfl | rfl | rfl | rfl | rfl
      case inr.inr.inr.inr => exact absurd rfl (hdrained i _ hi)
      all_goals rfl
    rw [hinv.gate] at hnone
    exact Bool.toNat_eq_zero.mp hnone
  -- So nobody has the turn either, and nobody can be before that.
  have hturn : s.turnTaken = false := by
    have hnone : s.among Stage.holdsTurn = 0 := by
      refine among_eq_zero ?_
      intro i p hi
      rcases hstage i p hi with rfl | rfl | rfl | rfl | rfl
      case inr.inr.inr.inl => exact absurd rfl (hfree .gate hgate i _ hi)
      case inr.inr.inr.inr => exact absurd rfl (hdrained i _ hi)
      all_goals rfl
    rw [hinv.turn] at hnone
    exact Bool.toNat_eq_zero.mp hnone
  -- So nobody waits for anything, and all are done.
  obtain ⟨party, hmem, hdone⟩ := hbusy
  obtain ⟨i, hp⟩ := List.mem_iff_getElem?.mp hmem
  have hi := stage_of_party hp
  rcases waiting_or_done h hstuck hp with hwaiting | hover
  · rcases Stage.cases_of_waiting hwaiting with hst | hst | hst | hst
    · exact hfree .gate hgate i _ hi (by rw [hst]; rfl)
    · exact hfree .turn hturn i _ hi (by rw [hst]; rfl)
    · exact hfree .gate hgate i _ hi (by rw [hst]; rfl)
    · exact hdrained i _ hi hst
  · rw [hover] at hdone
    cases hdone

/-- **A lock never gets stuck.** Whatever parties share a lock of either kind, whatever sections
they go through, in whatever order they take their steps, and whichever sleepers are woken or wake
by themselves: some party can go on to its next stage exactly as long as the section of some party
is still to come or is not over. -/
theorem moves_iff_unfinished (kind : LockKind) (todos : List (List Mode)) (s : State)
    (hs : Reachable kind (todos.map Party.start) s) :
    (∃ i chosen t, s.step (.go i chosen) = some t ∧ t.stages ≠ s.stages) ↔
      ∃ party ∈ s.parties, party.isDone = false := by
  constructor
  · rintro ⟨i, chosen, t, hstep, -⟩
    unfold step at hstep
    cases hp : s.parties[i]? with
    | none => simp [hp] at hstep
    | some party =>
        refine ⟨party, List.mem_of_getElem? hp, ?_⟩
        cases hdone : party.isDone with
        | false => rfl
        | true =>
            -- Who is done has no step.
            simp only [Party.isDone, Bool.and_eq_true, decide_eq_true_eq,
              List.isEmpty_iff] at hdone
            simp [hp, advance, hdone.1, hdone.2] at hstep
  · exact canMove_of_unfinished (inv_of_reachable hs) (roused_of_reachable hs)

/-- Between threads: a reader has given the gate back and has not yet told of it, and a writer
sleeps before the gate. -/
theorem moves_iff_unfinished_untold :
    ∃ s, Reachable .thread ([[.read], [.write], [.read]].map Party.start) s ∧
      s.parties = [⟨.passed, false, []⟩, ⟨.closing, true, []⟩, .start [.read]] ∧
      ∃ i chosen t, s.step (.go i chosen) = some t ∧ t.stages ≠ s.stages := by
  have counting : Reachable .thread ([[.read], [.write], [.read]].map Party.start)
      ⟨.thread, false, true, 0, [⟨.counting, false, []⟩, .start [.write], .start [.read]]⟩ :=
    .step (.go 0 none) (.step (.go 0 none) .start rfl) rfl
  have closing := (counting.step (.go 1 none) rfl).step (.go 1 none)
    (t := ⟨.thread, true, true, 0,
      [⟨.counting, false, []⟩, ⟨.closing, false, []⟩, .start [.read]]⟩) rfl
  have asleep := closing.step (.go 1 none)
    (t := ⟨.thread, true, true, 0,
      [⟨.counting, false, []⟩, ⟨.closing, true, []⟩, .start [.read]]⟩) rfl
  have passed := (asleep.step (.go 0 none) rfl).step (.go 0 none)
    (t := ⟨.thread, true, false, 1,
      [⟨.passed, false, []⟩, ⟨.closing, true, []⟩, .start [.read]]⟩) rfl
  refine ⟨_, passed, rfl, ?_⟩
  exact (moves_iff_unfinished .thread [[.read], [.write], [.read]] _ passed).mpr
    ⟨⟨.passed, false, []⟩, List.mem_cons_self, rfl⟩

end State
end Switchyard.Lock
