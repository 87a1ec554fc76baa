import Switchyard.Proofs.Supervisor.Record

/-!
# Switchyard.Proofs.Supervisor.Life

The life of a record that several parties share, whatever they do besides. A `Life` is what a state
shows of it: how far the worker is, the record, and the records that the exit handler was given.

* `Life.Moves` is what one step may do to it, and `Life.Fits` what holds of it at all times. From
  both, over any number of steps, come the promises to whoever looks at the record (`Promises`).
* A system of steps keeps these promises as soon as each of its steps is such a move (`Lives`).

The worker, the reader, the one who started them and those who look on may take their steps in any
order. That the order does not matter to the promises is the point of going through `Moves`: a move
depends on how far the worker is and on nothing else.
-/

namespace Switchyard.Supervisor

/-! ### Runs -/

/-- The steps lead from one state to another. -/
inductive Run {σ ε : Type} (step : σ → ε → Option σ) (s : σ) : List ε → σ → Prop where
  | rest : Run step s [] s
  | step {events : List ε} {t u : σ} {e : ε} (h : Run step s events t) (he : step t e = some u) :
      Run step s (events ++ [e]) u

namespace Run

variable {σ ε : Type} {step : σ → ε → Option σ} {s t u : σ} {before events : List ε} {e : ε}

theorem trans (h : Run step s before t) (h' : Run step t events u) :
    Run step s (before ++ events) u := by
  induction h' with
  | rest => rwa [List.append_nil]
  | step _ he ih => exact List.append_assoc .. ▸ .step ih he

theorem single (he : step s e = some t) : Run step s [e] t :=
  .step .rest he

/-- Steps that are all possible, one after another, make up a run. -/
theorem of_foldlM (h : events.foldlM step s = some t) : Run step s events t := by
  induction events generalizing s with
  | nil => cases h; exact .rest
  | cons e rest ih =>
      rw [List.foldlM_cons] at h
      obtain ⟨u, he, hrest⟩ := Option.bind_eq_some_iff.mp h
      exact (single he).trans (ih hrest)

end Run

/-! ### One life -/

/-- How far the worker is. -/
inductive Phase where
  | begun
  | refused
  | running
  | finished
  | reported
  deriving DecidableEq

/-- What a state shows of the record that is shared. -/
structure Life where
  phase : Phase
  record : Record
  /-- The records that the exit handler was given. -/
  reports : List Record

namespace Life

variable {l m : Life}

/-- What a step may do: nothing that shows, or one of the five changes in the life of a record, each
only at its time. -/
inductive Moves (l : Life) : Life → Prop where
  | stay : Moves l l
  | start (h : l.phase = .begun) : Moves l { l with phase := .running }
  | refuse (h : l.phase = .begun) : Moves l { l with phase := .refused }
  | append (j : Json) (h : l.phase = .running) : Moves l { l with record := l.record.append j }
  | finish (retval : Int) (h : l.phase = .running) :
      Moves l { l with phase := .finished, record := l.record.finish retval }
  | report (h : l.phase = .finished) :
      Moves l { l with phase := .reported, reports := l.reports ++ [l.record] }

/-- What holds at all times, told by how far the worker is. -/
structure Fits (l : Life) : Prop where
  /-- The record is finished when the worker says so. -/
  exited : l.record.exited = true ↔ l.phase = .finished ∨ l.phase = .reported
  /-- The exit code is that of a command that has not ended, until then. -/
  retval : l.record.exited = false → l.record.retval = 0
  /-- The exit handler was given the finished record, once. -/
  reports : l.reports = if l.phase = .reported then [l.record] else []

/-- A move keeps what holds at all times: one case for each move. -/
theorem Moves.fits (h : l.Moves m) (hl : l.Fits) : m.Fits := by
  cases h with
  | stay => exact hl
  | start hphase | refuse hphase =>
      refine ⟨?_, hl.retval, ?_⟩
      · simpa [hphase] using hl.exited
      · simpa [hphase] using hl.reports
  | append j hphase =>
      refine ⟨hl.exited, hl.retval, ?_⟩
      simpa [hphase] using hl.reports
  | finish retval hphase =>
      refine ⟨by simp [Record.finish], by simp [Record.finish], ?_⟩
      simpa [hphase] using hl.reports
  | report hphase =>
      refine ⟨?_, hl.retval, ?_⟩
      · simpa [hphase] using hl.exited
      · simpa [hphase] using hl.reports

/-- A move only makes the record grow, since results are added and the end is recorded while it is
not finished. -/
theorem Moves.grows (h : l.Moves m) (hl : l.Fits) : l.record.Grows m.record := by
  have hrunning (hphase : l.phase = .running) : l.record.exited = false := by
    have := hl.exited
    simpa [hphase] using this
  cases h with
  | append j hphase => exact .append (hrunning hphase) j
  | finish retval hphase => exact .finish (hrunning hphase) retval
  | _ => exact .refl _

/-- A worker that could not start does nothing more. -/
theorem Moves.eq_of_refused (h : l.Moves m) (hl : l.phase = .refused) : m = l := by
  cases h <;> simp_all

end Life

/-! ### The promises to whoever looks at the record -/

/-- What the steps from a state promise about the record that they share. -/
structure Promises {σ ε : Type} (step : σ → ε → Option σ) (start : σ) (life : σ → Life) : Prop where
  /-- The record only grows, and stays as it is once it is finished. -/
  grows {s t : σ} {before between : List ε} :
    Run step start before s → Run step s between t → (life s).record.Grows (life t).record
  /-- The exit code is zero until the record is finished. -/
  retval {s : σ} {events : List ε} :
    Run step start events s → (life s).record.exited = false → (life s).record.retval = 0
  /-- Whenever the exit handler has run, the record is finished, and the exit handler has run once
  and was given that record. -/
  reports {s : σ} {events : List ε} :
    Run step start events s →
      (life s).reports = [] ∨ (life s).record.exited = true ∧ (life s).reports = [(life s).record]
  /-- Once the record is finished, the exit handler runs next. -/
  due {s : σ} {events : List ε} :
    Run step start events s → (life s).record.exited = true → (life s).reports = [] →
      ∃ e t, step s e = some t ∧ (life t).reports = [(life s).record]
  /-- When no step is left, the exit handler has run, or the start has failed. -/
  ends {s : σ} {events : List ε} :
    Run step start events s → (∀ e, step s e = none) →
      (life s).reports = [(life s).record] ∨ (life s).phase = .refused
  /-- After a start that failed, the exit handler never runs. -/
  refused {s t : σ} {before between : List ε} :
    Run step start before s → (life s).phase = .refused → Run step s between t →
      (life t).reports = []

/-- A system of steps each of which is a move of the life. `Sound` is what such a system needs to
know of its own states for that; by the last two fields the worker is not kept from going on. -/
structure Lives {σ ε : Type} (step : σ → ε → Option σ) (start : σ) (life : σ → Life)
    (Sound : σ → Prop) : Prop where
  begins : Sound start ∧ (life start).Fits
  moves {s t : σ} {e : ε} : Sound s → step s e = some t → Sound t ∧ (life s).Moves (life t)
  /-- The exit handler runs after the record is finished. -/
  reports {s : σ} : Sound s → (life s).phase = .finished →
    ∃ e t, step s e = some t ∧ (life t).reports = (life s).reports ++ [(life s).record]
  /-- Some step is left until the exit handler has run. -/
  goesOn {s : σ} : Sound s → (∀ e, step s e = none) →
    (life s).phase = .refused ∨ (life s).phase = .reported

namespace Lives

variable {σ ε : Type} {step : σ → ε → Option σ} {start s t : σ} {life : σ → Life}
  {Sound : σ → Prop} {events : List ε}

theorem fits (h : Lives step start life Sound) (hs : Sound s ∧ (life s).Fits)
    (hrun : Run step s events t) : Sound t ∧ (life t).Fits := by
  induction hrun with
  | rest => exact hs
  | step _ he ih =>
      obtain ⟨hsound, hmoves⟩ := h.moves ih.1 he
      exact ⟨hsound, hmoves.fits ih.2⟩

theorem grows (h : Lives step start life Sound) (hs : Sound s ∧ (life s).Fits)
    (hrun : Run step s events t) : (life s).record.Grows (life t).record := by
  induction hrun with
  | rest => exact .refl _
  | step hrun he ih =>
      obtain ⟨hsound, hfits⟩ := h.fits hs hrun
      exact ih.trans ((h.moves hsound he).2.grows hfits)

theorem eq_of_refused (h : Lives step start life Sound) (hs : Sound s ∧ (life s).Fits)
    (hrefused : (life s).phase = .refused) (hrun : Run step s events t) : life t = life s := by
  induction hrun with
  | rest => rfl
  | step hrun he ih =>
      have hmoves := (h.moves (h.fits hs hrun).1 he).2
      rw [hmoves.eq_of_refused (ih ▸ hrefused), ih]

/-- **The promises are kept**, by every system of such steps. Each follows from what holds at all
times, at one state or at two of them with a run in between. -/
theorem promises (h : Lives step start life Sound) : Promises step start life where
  grows hs hrun := h.grows (h.fits h.begins hs) hrun
  retval hs := (h.fits h.begins hs).2.retval
  reports {s _} hs := by
    obtain ⟨-, hfits⟩ := h.fits h.begins hs
    by_cases hphase : (life s).phase = .reported
    · exact .inr ⟨hfits.exited.mpr (.inr hphase), by rw [hfits.reports, if_pos hphase]⟩
    · exact .inl (by rw [hfits.reports, if_neg hphase])
  due hs hexited hnone := by
    obtain ⟨hsound, hfits⟩ := h.fits h.begins hs
    rcases hfits.exited.mp hexited with hphase | hphase
    · obtain ⟨e, t, he, hreports⟩ := h.reports hsound hphase
      exact ⟨e, t, he, by rw [hreports, hnone, List.nil_append]⟩
    · simp [hfits.reports, hphase] at hnone
  ends hs hstuck := by
    obtain ⟨hsound, hfits⟩ := h.fits h.begins hs
    rcases h.goesOn hsound hstuck with hphase | hphase
    · exact .inr hphase
    · exact .inl (by rw [hfits.reports, if_pos hphase])
  refused {s t _ _} hs hrefused hrun := by
    have hfits := h.fits h.begins hs
    rw [h.eq_of_refused hfits hrefused hrun, hfits.2.reports, hrefused]
    simp

end Lives
end Switchyard.Supervisor
