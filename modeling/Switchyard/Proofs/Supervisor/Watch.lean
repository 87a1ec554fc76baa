import Switchyard.Supervisor.Watch
import Switchyard.Proofs.Supervisor.Life
import Switchyard.Proofs.Supervisor.Lines

/-!
# Switchyard.Proofs.Supervisor.Watch

What the steps of one supervised command do (`Watch.Steps`), and that each of them is a move of the
record's life (`Watch.lives`).

The reader has something to do only while the worker waits for it, and it has stopped for good when
the record is finished (`Watch.Sound`); so no result comes after the end. What it does at once in a
command that nobody looks at is done by such steps too (`Watch.works_settle`).
-/

namespace Switchyard.Supervisor

/-- How far the worker is. It still runs while it waits for the reader. -/
def Stage.phase : Stage → Phase
  | .begun => .begun
  | .refused _ => .refused
  | .running | .reaped _ => .running
  | .finished => .finished
  | .reported => .reported

namespace Watch

variable {w v : Watch} {e : Event}

/-- What each step of a command can do, and when it can be done. The worker, the reader and the one
who started them have steps of their own, which may come in any order that the conditions allow. -/
inductive Steps (w : Watch) : Event → Watch → Prop where
  | spawned (h : w.stage = .begun) : Steps w (.spawn (.ok ())) { w with stage := .running }
  | refused (error : StartError) (h : w.stage = .begun) :
      Steps w (.spawn (.error error)) { w with stage := .refused error }
  | stored (h : w.started = true) (hstored : w.stored = false) :
      Steps w .store { w with stored := true }
  | heard (s : Octets) (h : w.listens = true) :
      Steps w (.output s)
        { w with
          line := (takeLines w.line [] s).2
          tasks := showing w.handlers (takeLines w.line [] s).1 }
  | heardAll (h : w.listens = true) :
      Steps w .outputEnd
        { w with line := [], tasks := showing w.handlers (lastLine w.line), reading := false }
  | lost (h : w.listens = true) : Steps w .outputLost { w with line := [], reading := false }
  | worked {task : Task} {rest : List Task} (h : w.tasks = task :: rest) :
      Steps w .work (w.perform task rest)
  | reaped (retval : Int) (h : w.stage = .running) :
      Steps w (.reap retval) { w with stage := .reaped retval }
  | finished {retval : Int} (h : w.stage = .reaped retval) (hreading : w.reading = false)
      (htasks : w.tasks = []) :
      Steps w .finish { w with stage := .finished, record := w.record.finish retval }
  | reported (h : w.stage = .finished) :
      Steps w .report { w with stage := .reported, reports := w.reports ++ [w.record] }

/-- Invert one step. Whatever a step keeps is read off this. -/
theorem steps_of_step (h : w.step e = some v) : Steps w e v := by
  cases e with
  | spawn result =>
      cases result with
      | ok u =>
          obtain ⟨hs, ⟨⟩⟩ := Option.ite_none_right_eq_some.mp h
          exact .spawned hs
      | error error =>
          obtain ⟨hs, ⟨⟩⟩ := Option.ite_none_right_eq_some.mp h
          exact .refused error hs
  | store =>
      obtain ⟨hs, ⟨⟩⟩ := Option.ite_none_right_eq_some.mp h
      exact .stored hs.1 (by simpa using hs.2)
  | output s =>
      obtain ⟨hs, ⟨⟩⟩ := Option.ite_none_right_eq_some.mp h
      exact .heard s hs
  | outputEnd =>
      obtain ⟨hs, ⟨⟩⟩ := Option.ite_none_right_eq_some.mp h
      exact .heardAll hs
  | outputLost =>
      obtain ⟨hs, ⟨⟩⟩ := Option.ite_none_right_eq_some.mp h
      exact .lost hs
  | work =>
      cases htasks : w.tasks with
      | nil => simp [step, htasks] at h
      | cons task rest =>
          simp only [step, htasks, Option.some.injEq] at h
          exact h ▸ .worked htasks
  | reap retval =>
      obtain ⟨hs, ⟨⟩⟩ := Option.ite_none_right_eq_some.mp h
      exact .reaped retval hs
  | finish =>
      cases hstage : w.stage with
      | reaped retval =>
          simp only [step, hstage] at h
          obtain ⟨hs, ⟨⟩⟩ := Option.ite_none_left_eq_some.mp h
          simp only [not_or, Bool.not_eq_true, Classical.not_not, List.isEmpty_iff] at hs
          exact .finished hstage hs.1 hs.2
      | _ => simp [step, hstage] at h
  | report =>
      obtain ⟨hs, ⟨⟩⟩ := Option.ite_none_right_eq_some.mp h
      exact .reported hs

/-- A record keeps its id. -/
theorem id_of_step (h : w.step e = some v) : v.record.id = w.record.id := by
  cases steps_of_step h with
  | worked htasks => rename_i task rest; cases task <;> rfl
  | _ => rfl

/-! ### The life of the record -/

/-- What a state shows of its record. -/
def life (w : Watch) : Life :=
  ⟨w.stage.phase, w.record, w.reports⟩

/-- The reader has something to do only while the worker runs, and reads no more after that. So no
result is added to a finished record. -/
structure Sound (w : Watch) : Prop where
  tasks : w.tasks ≠ [] → w.stage.phase = .running
  reading : w.stage.phase = .finished ∨ w.stage.phase = .reported → w.reading = false

namespace Sound

theorem running_of_listens (hw : w.Sound) (h : w.listens = true) : w.stage.phase = .running := by
  simp only [listens, Bool.and_eq_true] at h
  obtain ⟨⟨hstarted, hreading⟩, -⟩ := h
  have hnot : ¬(w.stage.phase = .finished ∨ w.stage.phase = .reported) := by
    intro hphase
    simp [hw.reading hphase] at hreading
  cases hstage : w.stage <;> simp_all [started, Stage.phase]

/-- A running worker and any state of the reader are sound. -/
theorem of_running (h : w.stage.phase = .running) : w.Sound :=
  ⟨fun _ => h, by simp [h]⟩

theorem step (hw : w.Sound) (h : Steps w e v) : v.Sound ∧ w.life.Moves v.life := by
  cases h with
  | spawned hstage => exact ⟨of_running rfl, .start (by rw [life, hstage]; rfl)⟩
  | refused error hstage =>
      refine ⟨⟨fun htasks => ?_, by simp [Stage.phase]⟩, .refuse (by rw [life, hstage]; rfl)⟩
      simpa [hstage, Stage.phase] using hw.tasks htasks
  | stored => exact ⟨⟨hw.tasks, hw.reading⟩, .stay⟩
  | heard s hlistens => exact ⟨of_running (hw.running_of_listens hlistens), .stay⟩
  | heardAll hlistens | lost hlistens => exact ⟨of_running (hw.running_of_listens hlistens), .stay⟩
  | worked htasks =>
      rename_i task rest
      have hrunning : w.stage.phase = .running := hw.tasks (by simp [htasks])
      cases task with
      | call handler line => exact ⟨of_running hrunning, .stay⟩
      | add j => exact ⟨of_running hrunning, .append j hrunning⟩
      | crash => exact ⟨of_running hrunning, .stay⟩
  | reaped retval hstage =>
      refine ⟨of_running rfl, ?_⟩
      have hlife : life { w with stage := .reaped retval } = w.life := by
        simp [life, hstage, Stage.phase]
      exact hlife ▸ .stay
  | finished hstage hreading htasks =>
      exact ⟨⟨by simp [htasks], fun _ => hreading⟩, .finish _ (by rw [life, hstage]; rfl)⟩
  | reported hstage =>
      refine ⟨⟨fun htasks => ?_, fun _ => hw.reading (by simp [hstage, Stage.phase])⟩,
        .report (by rw [life, hstage]; rfl)⟩
      simpa [hstage, Stage.phase] using hw.tasks htasks

end Sound

/-- Until the exit handler has run, one of the parties has a step left. A worker that waits for the
reader is not stuck: the reader can work, or come to the end of the output. -/
theorem over_of_stuck (h : ∀ e, w.step e = none) :
    w.stage.phase = .refused ∨ w.stage.phase = .reported := by
  cases hstage : w.stage with
  | begun => simpa [step, hstage] using h (.spawn (.ok ()))
  | refused => exact .inl rfl
  | running => simpa [step, hstage] using h (.reap 0)
  | reaped retval =>
      cases htasks : w.tasks with
      | cons task rest => simpa [step, htasks] using h .work
      | nil =>
          cases hreading : w.reading with
          | true =>
              simpa [step, listens, started, hstage, hreading, htasks] using h .outputEnd
          | false => simpa [step, hstage, hreading, htasks] using h .finish
  | finished => simpa [step, hstage] using h .report
  | reported => exact .inr rfl

theorem lives (id : String) (handlers : List LineHandler) :
    Lives step (start id handlers) life Sound where
  begins := ⟨⟨by simp [start], by simp [start, Stage.phase]⟩,
    ⟨by simp [life, start, Record.start, Stage.phase], fun _ => rfl,
      by simp [life, start, Stage.phase]⟩⟩
  moves hs he := hs.step (steps_of_step he)
  reports {w} _ hphase := by
    have hstage : w.stage = .finished := by
      cases hstage : w.stage <;> simp [life, hstage, Stage.phase] at hphase ⊢
    exact ⟨.report, _, if_pos hstage, rfl⟩
  goesOn _ h := over_of_stuck h

/-! ### Working off, step by step -/

theorem step_work {task : Task} {rest : List Task} (h : w.tasks = task :: rest) :
    w.step .work = some (w.perform task rest) := by
  simp only [step, h]

theorem settle_of_idle (h : w.tasks = []) : w.settle = w := by
  cases w
  simp_all [settle, workOff]

/-- Performing a task leaves the rest of the work as it is: all that is left to do leads to the same
state, whether it is done at once or step by step. -/
theorem settle_perform {task : Task} {rest : List Task} (h : w.tasks = task :: rest) :
    (w.perform task rest).settle = w.settle := by
  cases task with
  | call handler line => simp only [settle, h, workOff_call]; rfl
  | add j => simp only [settle, h]; rfl
  | crash => simp [settle, h, perform, workOff]

/-- The reader performs some tasks, and nothing else happens. -/
def Works (w v : Watch) : Prop :=
  ∃ n, Run step w (List.replicate n .work) v

namespace Works

theorem refl (w : Watch) : Works w w :=
  ⟨0, .rest⟩

theorem first {task : Task} {rest : List Task} (h : w.tasks = task :: rest) :
    Works w (w.perform task rest) :=
  ⟨1, .single (step_work h)⟩

theorem trans {u : Watch} (h : Works w v) (h' : Works v u) : Works w u := by
  obtain ⟨n, hrun⟩ := h
  obtain ⟨m, hmore⟩ := h'
  exact ⟨n + m, List.replicate_append_replicate ▸ hrun.trans hmore⟩

end Works

/-- The reader adds results one after another. -/
theorem works_adds (js : List Json) {rest : List Task} (h : w.tasks = js.map .add ++ rest) :
    ∃ v, Works w v ∧ v.tasks = rest ∧ v.settle = w.settle := by
  induction js generalizing w with
  | nil => exact ⟨w, .refl w, h, rfl⟩
  | cons j js ih =>
      obtain ⟨v, hworks, htasks, hsettle⟩ :=
        ih (w := w.perform (.add j) (js.map .add ++ rest)) rfl
      exact ⟨v, (Works.first h).trans hworks, htasks, hsettle.trans (settle_perform h)⟩

/-- What the reader has to do, it can do step by step. By induction on its tasks; a call puts what
the handler adds in front of them, so that is worked off first (`works_adds`). -/
theorem works_settle (w : Watch) : Works w w.settle := by
  generalize htasks : w.tasks = tasks
  induction tasks generalizing w with
  | nil =>
      rw [settle_of_idle htasks]
      exact .refl w
  | cons task rest ih =>
      have hfirst := Works.first htasks
      rw [← settle_perform htasks]
      cases task with
      | add j => exact hfirst.trans (ih (w.perform (.add j) rest) rfl)
      | crash => exact settle_of_idle (w := w.perform .crash rest) rfl ▸ hfirst
      | call handler line =>
          -- First what the handler adds, then its crash, if any, or the rest.
          obtain ⟨v, hadds, hv, hsettle⟩ :=
            works_adds (w := w.perform (.call handler line) rest)
              (handler.reaction line w.record).adds (List.append_assoc ..)
          rw [← hsettle]
          cases hcrash : (handler.reaction line w.record).crashes with
          | false =>
              have hrest : v.tasks = rest := by simpa [hcrash] using hv
              exact hfirst.trans (hadds.trans (ih v hrest))
          | true =>
              have hlast : v.tasks = .crash :: rest := by simpa [hcrash] using hv
              rw [← settle_perform hlast, settle_of_idle rfl]
              exact hfirst.trans (hadds.trans (.first hlast))

theorem run_of_stepThrough (h : w.stepThrough e = some v) : ∃ events, Run step w events v := by
  obtain ⟨u, hu, rfl⟩ := Option.map_eq_some_iff.mp h
  obtain ⟨n, hrun⟩ := works_settle u
  exact ⟨_, (Run.single hu).trans hrun⟩

end Watch
end Switchyard.Supervisor
