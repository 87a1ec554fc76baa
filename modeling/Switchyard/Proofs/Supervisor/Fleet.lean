import Switchyard.Supervisor.Fleet
import Switchyard.Proofs.Supervisor.Batch
import Switchyard.Proofs.Supervisor.Store
import Switchyard.Proofs.Supervisor.Watch

/-!
# Switchyard.Proofs.Supervisor.Fleet

What happens to a store of supervised commands. Time passes without changing which entries are kept
or what their ids are (`Commands.keeps_advance`, `Batches.keeps_advance`), and each entry goes
through steps of its own (`Commands.run_of_mem_advance`, `Batches.run_of_mem_advance`). A start that
succeeds adds an entry under its id, and a start that fails adds none (`startCommand_adds`,
`startBatch_adds`).

A store is the same kind of thing for commands and for batches, so what time does to it is said
once, for any steps that keep the id of a record; the two kinds then only name their steps.
-/

namespace Switchyard.Supervisor

variable {capacity : Nat} {ids : List String}

/-- The store keeps the newest of the commands that had these ids. -/
abbrev Commands.Keeps (capacity : Nat) (ids : List String) (s : Commands) : Prop :=
  Store.Keeps (·.state.record.id) capacity ids s

/-- The store keeps the newest of the batches that had these ids. -/
abbrev Batches.Keeps (capacity : Nat) (ids : List String) (s : Batches) : Prop :=
  Store.Keeps (·.state.record.id) capacity ids s

/-! ### Time -/

section Time

variable {σ ε : Type} {step : σ → ε → Option σ} {record : σ → Record}

/-- What every step keeps of an id, the steps that are due keep. -/
theorem Timed.id_perform (hstep : ∀ s e t, step s e = some t → (record t).id = (record s).id)
    (now : Nat) (s : σ) (due : List (Nat × ε)) :
    (record (Timed.perform step now s due).state).id = (record s).id := by
  fun_induction Timed.perform step now s due with
  | case1 => rfl
  | case2 s time e rest _ ih =>
      rw [ih]
      cases he : step s e with
      | none => rfl
      | some t => exact hstep s e t he
  | case3 => rfl

theorem Store.Keeps.advance {s : Store (Timed σ ε)}
    (hstep : ∀ s e t, step s e = some t → (record t).id = (record s).id)
    (h : s.Keeps (fun t => (record t.state).id) capacity ids) (reports : σ → List Record)
    (now : Nat) :
    (Supervisor.advance step reports now s).1.Keeps (fun t => (record t.state).id) capacity ids := by
  refine h.changed rfl rfl ?_
  simp only [Supervisor.advance, List.map_map]
  exact List.map_congr_left fun t _ => Timed.id_perform hstep now t.state t.due

/-- Steps that are due make up a run, if each of them does. -/
theorem Timed.run_perform {through : σ → ε → Option σ}
    (hthrough : ∀ s e t, through s e = some t → ∃ events, Run step s events t)
    (now : Nat) (s : σ) (due : List (Nat × ε)) :
    ∃ events, Run step s events (Timed.perform through now s due).state := by
  fun_induction Timed.perform through now s due with
  | case1 => exact ⟨[], .rest⟩
  | case2 s time e rest _ ih =>
      obtain ⟨later, hlater⟩ := ih
      cases he : through s e with
      | none => exact ⟨later, by simpa [he] using hlater⟩
      | some t =>
          obtain ⟨events, hrun⟩ := hthrough s e t he
          exact ⟨_, hrun.trans (by simpa [he] using hlater)⟩
  | case3 => exact ⟨[], .rest⟩

end Time

theorem Watch.id_of_stepThrough (w : Watch) (e : Event) (v : Watch)
    (h : w.stepThrough e = some v) : v.record.id = w.record.id := by
  obtain ⟨u, hu, rfl⟩ := Option.map_eq_some_iff.mp h
  rw [← id_of_step hu]
  exact id_workOff u.tasks u.record

theorem Batch.id_of_stepThrough (b : Batch) (e : BatchEvent) (c : Batch)
    (h : b.stepThrough e = some c) : c.record.id = b.record.id := by
  obtain ⟨u, hu, rfl⟩ := Option.map_eq_some_iff.mp h
  rw [← id_of_step hu]
  exact Record.id_appendAll u.adds u.record

/-- Time changes neither which commands are kept nor their ids. -/
theorem Commands.keeps_advance {s : Commands} (h : s.Keeps capacity ids) (now : Nat) :
    (s.advance now).1.Keeps capacity ids :=
  Store.Keeps.advance Watch.id_of_stepThrough h Watch.reports now

/-- Time changes neither which batches are kept nor their ids. -/
theorem Batches.keeps_advance {s : Batches} (h : s.Keeps capacity ids) (now : Nat) :
    (s.advance now).1.Keeps capacity ids :=
  Store.Keeps.advance Batch.id_of_stepThrough h Batch.reports now

/-- A command that time has brought on went through steps of its own. -/
theorem Commands.run_of_mem_advance {s : Commands} {now : Nat} {t : Timed Watch Event}
    (h : t ∈ (s.advance now).1.made) :
    ∃ old ∈ s.made, ∃ events, Run Watch.step old.state events t.state := by
  obtain ⟨old, hold, rfl⟩ := List.mem_map.mp h
  exact ⟨old, hold, Timed.run_perform (fun _ _ _ => Watch.run_of_stepThrough) now _ _⟩

/-- A batch that time has brought on went through steps of its own. -/
theorem Batches.run_of_mem_advance {s : Batches} {now : Nat} {t : Timed Batch BatchEvent}
    (h : t ∈ (s.advance now).1.made) :
    ∃ old ∈ s.made, ∃ events, Run Batch.step old.state events t.state := by
  obtain ⟨old, hold, rfl⟩ := List.mem_map.mp h
  exact ⟨old, hold, Timed.run_perform (fun _ _ _ => Batch.run_of_stepThrough) now _ _⟩

/-! ### Starts -/

/-- A start fails and leaves the store as it was, or succeeds and adds one entry under the id. -/
def Start.FailsOrAdds {α : Type} (idOf : α → String) (id : String) (s : Store α)
    (r : Start α) : Prop :=
  (∃ e, r.result = .error e) ∧ r.store = s ∨
    r.result = .ok () ∧ ∃ a, idOf a = id ∧ r.store = s.add a

section Attempts

variable {α β : Type}

/-- Only what has started is stored. -/
theorem Attempt.stored_cases (a : Attempt β) (entry : β → α) (s : Store α) :
    (∃ e, a.result = .error e ∧ a.stored entry s = ⟨s, a.hooked, a.deeds, .error e⟩) ∨
      ∃ started, a.result = .ok started ∧
        a.stored entry s = ⟨s.add (entry started), a.hooked, a.deeds, .ok ()⟩ := by
  unfold Attempt.stored
  cases hresult : a.result with
  | error e => exact .inl ⟨e, rfl, rfl⟩
  | ok started => exact .inr ⟨started, rfl, rfl⟩

theorem Attempt.stored_adds {idOf : α → String} {id : String} (a : Attempt β) {entry : β → α}
    (hentry : ∀ started, idOf (entry started) = id) (s : Store α) :
    (a.stored entry s).FailsOrAdds idOf id s := by
  rcases a.stored_cases entry s with ⟨e, -, hstored⟩ | ⟨started, -, hstored⟩
  · rw [hstored]
    exact .inl ⟨⟨e, rfl⟩, rfl⟩
  · rw [hstored]
    exact .inr ⟨rfl, entry started, hentry started, rfl⟩

end Attempts

section Starts

variable (host : Host) (root : Option String) (id : String) (now : Nat)

theorem startCommand_adds (args : List String) (handlers : List LineHandler)
    (limit : Option Nat) (s : Commands) :
    (startCommand host root id args handlers limit now s).FailsOrAdds (·.state.record.id) id s := by
  refine (beginCommand host root args).stored_adds ?_ s
  exact fun _ => rfl

theorem startBatch_adds (commands : List (List String)) (entry : Nat → Json → Json)
    (s : Batches) :
    (startBatch host root id commands entry now s).FailsOrAdds (·.state.record.id) id s := by
  refine (beginBatch host root commands).stored_adds ?_ s
  exact fun _ => rfl

end Starts

/-! ### Polls -/

/-- A command can be polled exactly while few enough commands were started after it. -/
theorem Commands.isSome_poll?_iff {s : Commands} (h : s.Keeps capacity ids) (id : String) :
    (Commands.poll? id s).isSome ↔
      ∃ earlier later, ids = earlier ++ id :: later ∧ later.length < max capacity 1 := by
  rw [Commands.poll?, Option.isSome_map]
  exact h.isSome_find?_iff id

/-- A batch can be polled exactly while few enough batches were started after it. -/
theorem Batches.isSome_poll?_iff {s : Batches} (h : s.Keeps capacity ids) (id : String) :
    (Batches.poll? id s).isSome ↔
      ∃ earlier later, ids = earlier ++ id :: later ∧ later.length < max capacity 1 := by
  rw [Batches.poll?, Option.isSome_map]
  exact h.isSome_find?_iff id

end Switchyard.Supervisor
