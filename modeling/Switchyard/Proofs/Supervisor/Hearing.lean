import Switchyard.Proofs.Supervisor.Lines
import Switchyard.Proofs.Supervisor.Watch

/-!
# Switchyard.Proofs.Supervisor.Hearing

**A finished record is complete.** When the handlers do not crash and no read fails, then at the
moment the record is finished the child has been waited for, its output has been read to its end,
each handler has been called with each line, in order, and the record is the one that follows from
the lines and the exit code alone, whatever the order of the steps was (`Watch.complete_of_exited`).

`Hearing` says it of every moment on the way: the calls so far and those that the reader has yet to
make are the calls for the lines so far, and working them off gives the record of these lines. Each
kind of step keeps it.

The calls are compared with those of the whole output, and not of the output so far, only at the
end; until then an unfinished line waits for more bytes, and `heard` leaves it out as long as there
is more to read.
-/

namespace Switchyard.Supervisor

/-- The bytes of output that a step brings. -/
def Event.bytes : Event → Octets
  | .output s => s
  | _ => []

/-- The output that some steps bring. -/
def outputOf (events : List Event) : Octets :=
  events.flatMap Event.bytes

namespace Watch

/-- The tasks that the reader performs in a step. -/
def performs (w : Watch) : Event → List Task
  | .work => w.tasks.take 1
  | _ => []

/-- The tasks that the reader performs in some steps. -/
def performed (w : Watch) : List Event → List Task
  | [] => []
  | e :: rest => w.performs e ++ performed ((w.step e).getD w) rest

variable {w v : Watch} {e : Event} {events : List Event}

theorem performed_concat (w : Watch) (events : List Event) (e : Event) :
    w.performed (events ++ [e]) = w.performed events ++ (w.steps events).performs e := by
  induction events generalizing w with
  | nil => simp [performed, steps]
  | cons first rest ih =>
      rw [List.cons_append, performed, ih, performed, List.append_assoc]
      rfl

theorem steps_concat (w : Watch) (events : List Event) (e : Event) :
    w.steps (events ++ [e]) = ((w.steps events).step e).getD (w.steps events) := by
  simp [steps]

theorem steps_of_run (h : Run step w events v) : w.steps events = v := by
  induction h with
  | rest => rfl
  | step _ he ih => rw [steps_concat, ih, he, Option.getD_some]

/-! ### What was heard so far -/

/-- The lines that can be told from some output; the last one only once the output has ended, as its
line feed may still come. -/
def heard (reading : Bool) (output : Octets) : List Octets :=
  if reading then (takeLines [] [] output).1 else linesOf output

/-- The record of a command that was shown some lines and has not ended. -/
def recordOf (id : String) (handlers : List LineHandler) (lines : List Octets) : Record :=
  (workOff (showing handlers lines) (.start id)).1

/-- The worker is done with the record. -/
def IsOver (w : Watch) : Prop :=
  w.stage.phase = .finished ∨ w.stage.phase = .reported

theorem not_isOver_of_running (h : w.stage.phase = .running) : ¬w.IsOver := by
  simp [IsOver, h]

/-- After some steps, the reader is where the output so far has brought it. This is the invariant of
a run; `calls` and `record` are its two halves, of which the first counts calls made and calls due
together, so that performing a task does not change it. -/
structure Hearing (id : String) (handlers : List LineHandler) (events : List Event)
    (w : Watch) : Prop where
  handlers_eq : w.handlers = handlers
  calm : ∀ task ∈ w.tasks, task.Calm
  /-- The worker knows the exit code from waiting. -/
  reaped {retval : Int} : w.stage = .reaped retval → .reap retval ∈ events
  line : w.reading = true → w.line = (takeLines [] [] (outputOf events)).2
  ended : w.reading = false → .outputEnd ∈ events
  /-- The calls so far and those to come are those for the lines so far. -/
  calls : ((start id handlers).performed events ++ w.tasks).filter Task.isCall =
    showing handlers (heard w.reading (outputOf events))
  record : ¬w.IsOver →
    (workOff w.tasks w.record).1 = recordOf id handlers (heard w.reading (outputOf events))
  finished : w.IsOver → ∃ retval, .reap retval ∈ events ∧
    w.record = (recordOf id handlers (heard w.reading (outputOf events))).finish retval

namespace Hearing

variable {id : String} {handlers : List LineHandler}

theorem start : Hearing id handlers [] (start id handlers) where
  handlers_eq := rfl
  calm := by simp [Watch.start]
  reaped h := by simp [Watch.start] at h
  line _ := rfl
  ended h := by simp [Watch.start] at h
  calls := rfl
  record _ := rfl
  finished h := by simp [IsOver, Watch.start, Stage.phase] at h

/-- A step in which the reader gets no more lines: what it performs in it was among its tasks. What
each step of this kind must show is asked for here once. -/
theorem keep (h : Hearing id handlers events w) (hrun : (Watch.start id handlers).steps events = w)
    (hbytes : e.bytes = [])
    (hv : v.handlers = w.handlers ∧ v.line = w.line ∧ v.reading = w.reading)
    (hcalm : ∀ task ∈ v.tasks, task.Calm)
    (hcalls : (w.performs e ++ v.tasks).filter Task.isCall = w.tasks.filter Task.isCall)
    (hreaped : ∀ retval, v.stage = .reaped retval → .reap retval ∈ events ++ [e])
    (hrecord : ¬v.IsOver →
      ¬w.IsOver ∧ (workOff v.tasks v.record).1 = (workOff w.tasks w.record).1)
    (hover : v.IsOver → w.IsOver ∧ v.record = w.record ∨
      ¬w.IsOver ∧ ∃ retval, w.stage = .reaped retval ∧
        v.record = (workOff w.tasks w.record).1.finish retval) :
    Hearing id handlers (events ++ [e]) v := by
  obtain ⟨hhandlers, hline, hreading⟩ := hv
  have houtput : outputOf (events ++ [e]) = outputOf events := by simp [outputOf, hbytes]
  constructor
  case handlers_eq => rw [hhandlers, h.handlers_eq]
  case calm => exact hcalm
  case reaped => exact hreaped _
  case line => rw [hreading, hline, houtput]; exact h.line
  case ended => rw [hreading]; exact fun hr => List.mem_append_left _ (h.ended hr)
  case calls =>
    rw [performed_concat, hrun, hreading, houtput, ← h.calls, List.append_assoc,
      List.filter_append, hcalls, List.filter_append]
  case record =>
    intro hnot
    obtain ⟨hwas, heq⟩ := hrecord hnot
    rw [heq, hreading, houtput, h.record hwas]
  case finished =>
    intro ho
    rw [hreading, houtput]
    rcases hover ho with ⟨hwas, heq⟩ | ⟨hnot, retval, hstage, heq⟩
    · obtain ⟨retval, hmem, hw⟩ := h.finished hwas
      exact ⟨retval, List.mem_append_left _ hmem, heq.trans hw⟩
    · exact ⟨retval, List.mem_append_left _ (h.reaped hstage), by rw [heq, h.record hnot]⟩

/-- A step that does not concern the reader. -/
theorem still (h : Hearing id handlers events w) (hrun : (Watch.start id handlers).steps events = w)
    (hbytes : e.bytes = []) (hperforms : w.performs e = [])
    (hv : v.handlers = w.handlers ∧ v.line = w.line ∧ v.reading = w.reading)
    (htasks : v.tasks = w.tasks) (hrecord : v.record = w.record) (hover : v.IsOver ↔ w.IsOver)
    (hreaped : ∀ retval, v.stage = .reaped retval → .reap retval ∈ events ++ [e]) :
    Hearing id handlers (events ++ [e]) v := by
  refine h.keep hrun hbytes hv (htasks ▸ h.calm) ?_ hreaped ?_ ?_
  · rw [hperforms, htasks, List.nil_append]
  · intro hnot
    exact ⟨mt hover.mpr hnot, by rw [htasks, hrecord]⟩
  · intro ho
    exact .inl ⟨hover.mp ho, hrecord⟩

/-- A step in which the reader gets more lines to show. It listens only when it has no tasks left,
so the new ones are all there is to do, and the record goes on from that of the lines before. -/
theorem more (h : Hearing id handlers events w) (hrun : (Watch.start id handlers).steps events = w)
    (hw : w.Sound) (hlistens : w.listens = true) (hcalm : ∀ h ∈ handlers, h.Calm)
    (lines : List Octets)
    (hheard : heard v.reading (outputOf (events ++ [e])) = heard true (outputOf events) ++ lines)
    (hperforms : w.performs e = [])
    (hv : v.handlers = w.handlers ∧ v.tasks = showing w.handlers lines ∧ v.record = w.record ∧
      v.stage = w.stage)
    (hline : v.reading = true → v.line = (takeLines [] [] (outputOf (events ++ [e]))).2)
    (hended : v.reading = false → .outputEnd ∈ events ++ [e]) :
    Hearing id handlers (events ++ [e]) v := by
  obtain ⟨hhandlers, htasks, hrecord, hstage⟩ := hv
  have hnotOver : ¬w.IsOver := not_isOver_of_running (hw.running_of_listens hlistens)
  simp only [listens, Bool.and_eq_true, List.isEmpty_iff] at hlistens
  obtain ⟨⟨-, hreading⟩, hnone⟩ := hlistens
  have hperformed : (Watch.start id handlers).performed (events ++ [e]) =
      (Watch.start id handlers).performed events := by
    rw [performed_concat, hrun, hperforms, List.append_nil]
  have hcalls := h.calls
  have hrecordOf := h.record hnotOver
  rw [hnone, hreading] at hcalls hrecordOf
  rw [h.handlers_eq] at htasks
  constructor
  case handlers_eq => rw [hhandlers, h.handlers_eq]
  case calm => rw [htasks]; exact calm_showing hcalm lines
  case reaped =>
    rw [hstage]
    exact fun hr => List.mem_append_left _ (h.reaped hr)
  case line => exact hline
  case ended => exact hended
  case calls =>
    rw [hperformed, htasks, hheard, showing_append, List.filter_append, filter_showing]
    rw [List.append_nil] at hcalls
    rw [hcalls]
  case record =>
    intro _
    rw [htasks, hrecord, hheard, recordOf, showing_append,
      workOff_append _ _ _ (calm_showing hcalm _), ← recordOf, ← hrecordOf]
    rfl
  case finished =>
    intro hover
    rw [IsOver, hstage] at hover
    exact absurd hover hnotOver

/-- A step in which the reader performs its next task. -/
theorem work (h : Hearing id handlers events w) (hrun : (Watch.start id handlers).steps events = w)
    (hw : w.Sound) {task : Task} {rest : List Task} (htasks : w.tasks = task :: rest) :
    Hearing id handlers (events ++ [.work]) (w.perform task rest) := by
  have hnotOver : ¬w.IsOver := not_isOver_of_running (hw.tasks (by simp [htasks]))
  have hperforms : w.performs .work = [task] := by simp [performs, htasks]
  have hcalm := h.calm
  rw [htasks] at hcalm
  have hrest : ∀ task ∈ rest, task.Calm := fun t ht => hcalm t (List.mem_cons_of_mem _ ht)
  cases task with
  | call handler line =>
      have hhandler : handler.Calm := hcalm (.call handler line) List.mem_cons_self
      have hreaction := Reaction.tasks_of_calm (hhandler.reaction line w.record)
      refine h.keep hrun rfl ⟨rfl, rfl, rfl⟩ ?_ ?_
        (fun _ hr => List.mem_append_left _ (h.reaped hr)) ?_ (fun ho => absurd ho hnotOver)
      · simp only [perform, hreaction, List.mem_append, List.mem_map]
        rintro t (⟨j, -, rfl⟩ | ht)
        · trivial
        · exact hrest t ht
      · have hadds (js : List Json) : (js.map Task.add).filter Task.isCall = [] := by
          simp [Task.isCall]
        simp [hperforms, htasks, perform, hreaction, hadds, List.filter_cons]
      · intro _
        exact ⟨hnotOver, by rw [htasks, workOff_call]; rfl⟩
  | add j =>
      refine h.keep hrun rfl ⟨rfl, rfl, rfl⟩ hrest ?_
        (fun _ hr => List.mem_append_left _ (h.reaped hr)) ?_ (fun ho => absurd ho hnotOver)
      · simp [hperforms, htasks, perform, Task.isCall]
      · intro _
        exact ⟨hnotOver, by rw [htasks]; rfl⟩
  | crash => exact False.elim (hcalm .crash List.mem_cons_self)

/-- The step in which the worker finishes the record. -/
theorem finish (h : Hearing id handlers events w)
    (hrun : (Watch.start id handlers).steps events = w) {retval : Int}
    (hstage : w.stage = .reaped retval) (htasks : w.tasks = []) :
    Hearing id handlers (events ++ [.finish])
      { w with stage := .finished, record := w.record.finish retval } := by
  refine h.keep hrun rfl ⟨rfl, rfl, rfl⟩ h.calm rfl (by simp) ?_ ?_
  · intro hnot
    exact absurd (.inl rfl) hnot
  · intro _
    refine .inr ⟨by simp [IsOver, hstage, Stage.phase], retval, hstage, ?_⟩
    rw [htasks]
    rfl

/-- One step keeps it; a read that fails is the only one that does not. -/
theorem step (h : Hearing id handlers events w) (hrun : (Watch.start id handlers).steps events = w)
    (hw : w.Sound) (hcalm : ∀ h ∈ handlers, h.Calm) (he : w.step e = some v)
    (hlost : e ≠ .outputLost) : Hearing id handlers (events ++ [e]) v := by
  cases steps_of_step he with
  | spawned hstage =>
      exact h.still hrun rfl rfl ⟨rfl, rfl, rfl⟩ rfl rfl
        (by simp [IsOver, hstage, Stage.phase]) (by simp)
  | refused error hstage =>
      exact h.still hrun rfl rfl ⟨rfl, rfl, rfl⟩ rfl rfl
        (by simp [IsOver, hstage, Stage.phase]) (by simp)
  | stored =>
      exact h.still hrun rfl rfl ⟨rfl, rfl, rfl⟩ rfl rfl Iff.rfl
        fun _ hr => List.mem_append_left _ (h.reaped hr)
  | heard s hlistens =>
      have hreading : w.reading = true := by simp_all [listens]
      have hcut := takeLines_append [] (outputOf events) s
      rw [← h.line hreading] at hcut
      have houtput : outputOf (events ++ [.output s]) = outputOf events ++ s := by
        simp [outputOf, Event.bytes]
      refine h.more hrun hw hlistens hcalm (takeLines w.line [] s).1 ?_ rfl
        ⟨rfl, rfl, rfl, rfl⟩ ?_ ?_
      · simp only [hreading, Watch.heard, if_true, houtput, hcut]
      · simp only [houtput, hcut, implies_true]
      · simp [hreading]
  | heardAll hlistens =>
      have hreading : w.reading = true := by simp_all [listens]
      have houtput : outputOf (events ++ [.outputEnd]) = outputOf events := by
        simp [outputOf, Event.bytes]
      refine h.more hrun hw hlistens hcalm (lastLine w.line) ?_ rfl
        ⟨rfl, rfl, rfl, rfl⟩ (by simp) (by simp)
      simp only [Watch.heard, if_true, Bool.false_eq_true, if_false, houtput, linesOf_eq,
        h.line hreading]
  | lost => exact absurd rfl hlost
  | worked htasks => exact h.work hrun hw htasks
  | reaped retval hstage =>
      exact h.still hrun rfl rfl ⟨rfl, rfl, rfl⟩ rfl rfl
        (by simp [IsOver, hstage, Stage.phase]) (by simp)
  | finished hstage _ htasks => exact h.finish hrun hstage htasks
  | reported hstage =>
      exact h.still hrun rfl rfl ⟨rfl, rfl, rfl⟩ rfl rfl
        (by simp [IsOver, hstage, Stage.phase]) (by simp)

end Hearing

theorem hearing_of_run {id : String} {handlers : List LineHandler}
    (hcalm : ∀ h ∈ handlers, h.Calm) (hrun : Run step (start id handlers) events w)
    (hlost : .outputLost ∉ events) : Hearing id handlers events w := by
  induction hrun with
  | rest => exact .start
  | step hrun he ih =>
      simp only [List.mem_append, List.mem_singleton, not_or] at hlost
      obtain ⟨hsound, -⟩ := (lives id handlers).fits (lives id handlers).begins hrun
      exact (ih hlost.1).step (steps_of_run hrun) hsound hcalm he (Ne.symm hlost.2)

/-- **A finished record is complete**: the child was waited for, its output was read to the end,
every handler was called with every line, and the record is the one that follows from these lines
and the exit code. -/
theorem complete_of_exited {id : String} {handlers : List LineHandler}
    (hcalm : ∀ h ∈ handlers, h.Calm) (hrun : Run step (start id handlers) events w)
    (hlost : .outputLost ∉ events) (hexited : w.record.exited = true) :
    ∃ retval, .reap retval ∈ events ∧ .outputEnd ∈ events ∧
      ((start id handlers).performed events).filter Task.isCall =
        showing handlers (linesOf (outputOf events)) ∧
      w.record = (recordOf id handlers (linesOf (outputOf events))).finish retval := by
  have h := hearing_of_run hcalm hrun hlost
  obtain ⟨hsound, hfits⟩ := (lives id handlers).fits (lives id handlers).begins hrun
  have hover : w.IsOver := hfits.exited.mp hexited
  have hreading : w.reading = false := hsound.reading hover
  have htasks : w.tasks = [] := by
    by_cases hnone : w.tasks = []
    · exact hnone
    · exact absurd hover (not_isOver_of_running (hsound.tasks hnone))
  obtain ⟨retval, hreaped, hrecord⟩ := h.finished hover
  have hcalls := h.calls
  rw [hreading] at hrecord hcalls
  rw [htasks, List.append_nil] at hcalls
  exact ⟨retval, hreaped, h.ended hreading, hcalls, hrecord⟩

end Watch
end Switchyard.Supervisor
