import Switchyard.Proofs.Supervisor.Hearing

/-!
# Switchyard.Proofs.Supervisor.Reading

**Output may come in any reads.** A running command whose handlers do not crash can take its output
in whatever reads (`Watch.Awaits.hears_outputs`), then come to the end of it, be waited for, and
have its record finished (`Watch.Awaits.hears_to_end`). Between two reads the reader works off what
the first one gave it to do.

`Watch.Hears` is what a command goes through while none of its reads fails; only the reads are
looked at.

This is the other half of what is known of reads: whatever reads there are, some run has just these.
So a result about all runs speaks of every way to cut an output.
-/

namespace Switchyard.Supervisor

/-- The output that a step reads. -/
def Event.read? : Event → Option Octets
  | .output s => some s
  | _ => none

/-- What some steps read, in order. -/
def readsOf (events : List Event) : List Octets :=
  events.filterMap Event.read?

theorem flatten_readsOf (events : List Event) : (readsOf events).flatten = outputOf events := by
  induction events with
  | nil => rfl
  | cons e rest ih =>
      have hreads : readsOf (e :: rest) = e.read?.toList ++ readsOf rest := by cases e <;> rfl
      have hbytes : e.read?.toList.flatten = e.bytes := by
        cases e <;> simp [Event.read?, Event.bytes]
      rw [hreads, List.flatten_append, hbytes, ih]
      rfl

namespace Watch

variable {u v w : Watch} {e : Event} {reads more : List Octets}

/-- Some steps lead from one state to another; they make these reads, and none that fails. -/
def Hears (w : Watch) (reads : List Octets) (v : Watch) : Prop :=
  ∃ events, Run step w events v ∧ readsOf events = reads ∧ .outputLost ∉ events

namespace Hears

theorem refl (w : Watch) : Hears w [] w :=
  ⟨[], .rest, rfl, List.not_mem_nil⟩

theorem trans (h : Hears w reads v) (h' : Hears v more u) : Hears w (reads ++ more) u := by
  obtain ⟨events, hrun, hreads, hlost⟩ := h
  obtain ⟨others, hrun', hmore, hlost'⟩ := h'
  refine ⟨events ++ others, hrun.trans hrun', ?_, by simp [hlost, hlost']⟩
  rw [readsOf, List.filterMap_append, ← hreads, ← hmore]
  rfl

theorem single (he : w.step e = some v) (hlost : .outputLost ∉ [e]) :
    Hears w e.read?.toList v := by
  refine ⟨[e], .single he, ?_, hlost⟩
  cases e <;> rfl

theorem settle (w : Watch) : Hears w [] w.settle := by
  obtain ⟨n, hrun⟩ := works_settle w
  refine ⟨_, hrun, ?_, by simp [List.mem_replicate]⟩
  simp [readsOf, List.filterMap_replicate, Event.read?]

end Hears

/-- The reader waits for output, and no handler will crash. A command is in such a state when it has
started and after each read has been worked off. -/
structure Awaits (w : Watch) : Prop where
  stage : w.stage = .running
  reading : w.reading = true
  tasks : w.tasks = []
  calm : ∀ h ∈ w.handlers, h.Calm

namespace Awaits

theorem listens (h : w.Awaits) : w.listens = true := by
  simp [Watch.listens, started, h.stage, h.reading, h.tasks]

/-- One read, with all that the reader has to do after it. -/
theorem hears_output (h : w.Awaits) (s : Octets) : ∃ v, Hears w [s] v ∧ v.Awaits := by
  obtain ⟨⟨lines, line⟩, hcut⟩ : ∃ cut, takeLines w.line [] s = cut := ⟨_, rfl⟩
  let after : Watch := { w with line := line, tasks := showing w.handlers lines }
  have hread : w.step (.output s) = some after := by
    simp [step, h.listens, hcut, after]
  have halive : (workOff after.tasks w.record).2 = true :=
    workOff_alive _ _ (calm_showing h.calm lines)
  refine ⟨after.settle, (Hears.single hread (by simp)).trans (.settle after), ?_⟩
  exact ⟨h.stage, by simp [Watch.settle, after, halive, h.reading], rfl, h.calm⟩

theorem hears_outputs (h : w.Awaits) (reads : List Octets) : ∃ v, Hears w reads v ∧ v.Awaits := by
  induction reads generalizing w with
  | nil => exact ⟨w, .refl w, h⟩
  | cons s rest ih =>
      obtain ⟨v, hfirst, hv⟩ := h.hears_output s
      obtain ⟨u, hrest, hu⟩ := ih hv
      exact ⟨u, hfirst.trans hrest, hu⟩

/-- **Output may come in any reads**, and the record is finished after them. After the reads come
the end of the output, the work for an unfinished last line, the wait for the child and the end of
the record. -/
theorem hears_to_end (h : w.Awaits) (reads : List Octets) (retval : Int) :
    ∃ v, Hears w reads v ∧ v.record.exited = true ∧ v.record.retval = retval := by
  obtain ⟨v, hreads, hv⟩ := h.hears_outputs reads
  let ended : Watch :=
    { v with line := [], tasks := showing v.handlers (lastLine v.line), reading := false }
  have hended : v.step .outputEnd = some ended := by simp [step, hv.listens, ended]
  have hreaped : ended.settle.step (.reap retval) =
      some { ended.settle with stage := .reaped retval } := if_pos hv.stage
  let reaped : Watch := { ended.settle with stage := .reaped retval }
  have hfinished : reaped.step .finish =
      some { reaped with stage := .finished, record := reaped.record.finish retval } := by
    simp [step, reaped, ended, Watch.settle]
  have hall := hreads.trans <| (Hears.single hended (by simp)).trans <|
    (Hears.settle ended).trans <|
    (Hears.single hreaped (by simp)).trans (.single hfinished (by simp))
  exact ⟨_, List.append_nil reads ▸ hall, rfl, rfl⟩

end Awaits
end Watch
end Switchyard.Supervisor
