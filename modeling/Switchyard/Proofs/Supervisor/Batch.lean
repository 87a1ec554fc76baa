import Switchyard.Supervisor.Batch
import Switchyard.Proofs.Supervisor.Life

/-!
# Switchyard.Proofs.Supervisor.Batch

What the steps of a batch do (`Batch.Steps`), and that each of them is a move of the record's life
(`Batch.lives`). The worker itself calls the result handler, so nothing is left to add when it goes
on to finish the record (`Batch.Sound`). What is done at once in a batch that nobody looks at is
done by such steps too (`Batch.run_settle`).
-/

namespace Switchyard.Supervisor

/-- How far the worker of a batch is. -/
def BatchStage.phase : BatchStage → Phase
  | .begun => .begun
  | .refused _ => .refused
  | .running => .running
  | .finished => .finished
  | .reported => .reported

namespace Batch

variable {b c : Batch} {e : BatchEvent}

/-- What each step of a batch can do, and when it can be done. Each case has the state that comes of
it written out, so that it is plain what the step leaves alone. -/
inductive Steps (b : Batch) : BatchEvent → Batch → Prop where
  | spawned (n : Nat) (h : b.stage = .begun) :
      Steps b (.spawn (.ok n)) { b with stage := .running, ends := List.replicate n none }
  | refused (error : StartError) (h : b.stage = .begun) :
      Steps b (.spawn (.error error)) { b with stage := .refused error }
  | stored (h : b.started = true) (hstored : b.stored = false) :
      Steps b .store { b with stored := true }
  | ended (child : Nat) (status : ExitStatus) (stdout : Octets) (h : b.watches = true)
      (hchild : b.ends[child]? = some none) :
      Steps b (.look child (.ended status) stdout) (b.note child status.toCode stdout)
  | failed (child : Nat) (error : IoError) (stdout : Octets) (h : b.watches = true)
      (hchild : b.ends[child]? = some none) :
      Steps b (.look child (.failed error) stdout) { b with ends := b.ends.set child (some (-1)) }
  | looked (child time : Nat) (stdout : Octets) (h : b.watches = true)
      (hchild : b.ends[child]? = some none) : Steps b (.look child (.running time) stdout) b
  | added {j : Json} {rest : List Json} (h : b.adds = j :: rest) :
      Steps b .add { b with adds := rest, record := b.record.append j }
  | finished (h : b.watches = true) (hends : b.ends.all Option.isSome = true) :
      Steps b .finish { b with stage := .finished, record := b.record.finish b.retval }
  | reported (h : b.stage = .finished) :
      Steps b .report { b with stage := .reported, reports := b.reports ++ [b.record] }

/-- Invert one step. Whatever a step keeps is read off this. -/
theorem steps_of_step (h : b.step e = some c) : Steps b e c := by
  cases e with
  | spawn result =>
      cases result with
      | ok n =>
          obtain ⟨hs, ⟨⟩⟩ := Option.ite_none_right_eq_some.mp h
          exact .spawned n hs
      | error error =>
          obtain ⟨hs, ⟨⟩⟩ := Option.ite_none_right_eq_some.mp h
          exact .refused error hs
  | store =>
      obtain ⟨hs, ⟨⟩⟩ := Option.ite_none_right_eq_some.mp h
      exact .stored hs.1 (by simpa using hs.2)
  | look child l stdout =>
      obtain ⟨hs, hl⟩ := Option.ite_none_right_eq_some.mp h
      cases l with
      | ended status => cases hl; exact .ended child status stdout hs.1 hs.2
      | failed error => cases hl; exact .failed child error stdout hs.1 hs.2
      | running time => cases hl; exact .looked child time stdout hs.1 hs.2
  | add =>
      cases hadds : b.adds with
      | nil => simp [step, hadds] at h
      | cons j rest =>
          simp only [step, hadds, Option.some.injEq] at h
          exact h ▸ .added hadds
  | finish =>
      obtain ⟨hs, ⟨⟩⟩ := Option.ite_none_right_eq_some.mp h
      exact .finished hs.1 hs.2
  | report =>
      obtain ⟨hs, ⟨⟩⟩ := Option.ite_none_right_eq_some.mp h
      exact .reported hs

/-! ### Noting an end -/

@[simp] theorem stage_note (child : Nat) (code : Int) (stdout : Octets) (b : Batch) :
    (b.note child code stdout).stage = b.stage := by
  unfold note
  grind [deliver]

@[simp] theorem record_note (child : Nat) (code : Int) (stdout : Octets) (b : Batch) :
    (b.note child code stdout).record = b.record := by
  unfold note
  grind [deliver]

@[simp] theorem reports_note (child : Nat) (code : Int) (stdout : Octets) (b : Batch) :
    (b.note child code stdout).reports = b.reports := by
  unfold note
  grind [deliver]

/-- A record keeps its id. -/
theorem id_of_step (h : b.step e = some c) : c.record.id = b.record.id := by
  cases steps_of_step h <;> simp

/-! ### The life of the record -/

/-- What a state shows of its record. -/
def life (b : Batch) : Life :=
  ⟨b.stage.phase, b.record, b.reports⟩

/-- The result handler adds entries only while the worker runs. The worker itself calls it, and goes
on only when it has returned. -/
def Sound (b : Batch) : Prop :=
  b.adds ≠ [] → b.stage = .running

/-- Each step keeps this, and is a move of the record's life: one case for each step. -/
theorem Sound.step (hb : b.Sound) (h : Steps b e c) : c.Sound ∧ b.life.Moves c.life := by
  cases h with
  | spawned n hstage => exact ⟨fun _ => rfl, .start (by rw [life, hstage]; rfl)⟩
  | refused error hstage =>
      refine ⟨fun hadds => ?_, .refuse (by rw [life, hstage]; rfl)⟩
      simpa [hstage] using hb hadds
  | stored => exact ⟨hb, .stay⟩
  | ended child status stdout hwatches =>
      have hrunning : b.stage = .running := by simp_all [watches]
      refine ⟨fun _ => by rw [stage_note, hrunning], ?_⟩
      have hlife : life (b.note child status.toCode stdout) = b.life := by simp [life]
      exact hlife ▸ .stay
  | failed => exact ⟨hb, .stay⟩
  | looked => exact ⟨hb, .stay⟩
  | added hadds =>
      rename_i j rest
      have hrunning : b.stage = .running := hb (by simp [hadds])
      exact ⟨fun _ => hrunning, .append j (by rw [life, hrunning]; rfl)⟩
  | finished hwatches =>
      simp only [watches, Bool.and_eq_true, decide_eq_true_eq, List.isEmpty_iff] at hwatches
      exact ⟨fun hadds => absurd hwatches.2 hadds,
        .finish _ (by rw [life, hwatches.1]; rfl)⟩
  | reported hstage =>
      refine ⟨fun hadds => ?_, .report (by rw [life, hstage]; rfl)⟩
      simpa [hstage] using hb hadds

/-- Until the exit handler has run, one of the parties has a step left: the worker can spawn, look
at a child that has not ended, go on with what the result handler adds, or end the record. -/
theorem over_of_stuck (h : ∀ e, b.step e = none) :
    b.stage.phase = .refused ∨ b.stage.phase = .reported := by
  cases hstage : b.stage with
  | begun => simpa [step, hstage] using h (.spawn (.ok 0))
  | refused => exact .inl rfl
  | running =>
      cases hadds : b.adds with
      | cons j rest => simpa [step, hadds] using h .add
      | nil =>
          have hwatches : b.watches = true := by simp [watches, hstage, hadds]
          by_cases hends : b.ends.all Option.isSome = true
          · simpa [step, hwatches, hends] using h .finish
          · -- Some child has not ended: the worker can look at it.
            simp only [List.all_eq_true, Classical.not_forall, Bool.not_eq_true,
              Option.isSome_eq_false_iff, Option.isNone_iff_eq_none] at hends
            obtain ⟨_, hmem, rfl⟩ := hends
            obtain ⟨child, hchild⟩ := List.mem_iff_getElem?.mp hmem
            simpa [step, hwatches, hchild] using h (.look child (.running 0) [])
  | finished => simpa [step, hstage] using h .report
  | reported => exact .inr rfl

theorem lives (id : String) (react : Nat → Json → Record → List Json) :
    Lives step (start id react) life Sound where
  begins := ⟨by simp [Sound, start],
    ⟨by simp [life, start, Record.start, BatchStage.phase], fun _ => rfl,
      by simp [life, start, BatchStage.phase]⟩⟩
  moves hs he := hs.step (steps_of_step he)
  reports {b} _ hphase := by
    have hstage : b.stage = .finished := by
      cases hstage : b.stage <;> simp [life, hstage, BatchStage.phase] at hphase ⊢
    exact ⟨.report, _, if_pos hstage, rfl⟩
  goesOn _ h := over_of_stuck h

/-! ### Adding, step by step -/

/-- What the result handler has yet to add, it can add step by step. So what the program does at
once is a run of these steps, and what holds of all runs holds of it. -/
theorem run_settle (b : Batch) : ∃ events, Run step b events b.settle := by
  cases b with
  | mk react record ends results adds stage stored reports =>
  induction adds generalizing record with
  | nil => exact ⟨[], .rest⟩
  | cons j rest ih =>
      obtain ⟨events, hrun⟩ := ih (record.append j)
      exact ⟨.add :: events, (Run.single rfl).trans hrun⟩

theorem run_of_stepThrough (h : b.stepThrough e = some c) : ∃ events, Run step b events c := by
  obtain ⟨u, hu, rfl⟩ := Option.map_eq_some_iff.mp h
  obtain ⟨events, hrun⟩ := run_settle u
  exact ⟨_, (Run.single hu).trans hrun⟩

end Batch
end Switchyard.Supervisor
