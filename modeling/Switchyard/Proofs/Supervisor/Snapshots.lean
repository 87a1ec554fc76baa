import Switchyard.Proofs.Supervisor.Batch
import Switchyard.Proofs.Supervisor.Hearing

/-!
# Switchyard.Proofs.Supervisor.Snapshots

**What those can rely on who look at a record while it is made** (`snapshots_reliable`). A snapshot
is the record of some state; two snapshots, one after the other, are those of a state and of another
to which some steps lead from it.

The promises about the record and the exit handler (`Promises`) are the same for commands and for
batches. For a command whose handlers do not crash and whose output is read without a failure, a
finished record is complete as well.

All this is about the record itself. When it can be found by its id is another matter: nothing
orders the storing of a record against the end of its command (`Watch.reported_unstored`,
`Batch.reported_unstored`).
-/

namespace Switchyard.Supervisor

/-- **A record only grows until it is finished, the exit handler runs once and after that, and a
finished record of a command is complete.** A record is finished only after the child was waited
for, its output was read to the end and every handler was called with every line.

The steps are those of any run, in any order that the parties allow; only for completeness the
handlers are asked not to crash and the reads not to fail. -/
theorem snapshots_reliable (id : String) (handlers : List LineHandler)
    (react : Nat → Json → Record → List Json) (hcalm : ∀ h ∈ handlers, h.Calm) :
    Promises Watch.step (.start id handlers) Watch.life ∧
      (∀ events w, Run Watch.step (.start id handlers) events w → .outputLost ∉ events →
        w.record.exited = true →
        ∃ retval, .reap retval ∈ events ∧ .outputEnd ∈ events ∧
          ((Watch.start id handlers).performed events).filter Task.isCall =
            showing handlers (linesOf (outputOf events)) ∧
          w.record =
            (Watch.recordOf id handlers (linesOf (outputOf events))).finish retval) ∧
      Promises Batch.step (.start id react) Batch.life :=
  ⟨(Watch.lives id handlers).promises,
    fun _ _ hrun hlost hexited => Watch.complete_of_exited hcalm hrun hlost hexited,
    (Batch.lives id react).promises⟩

/-- A handler that takes every line and adds the same result. -/
def ticking : LineHandler :=
  ⟨⟨#[.accept], 0, 0⟩, fun _ _ => .append (.bool true)⟩

/-- A command that writes a line and a part of another, is waited for before its output is read to
the end, and exits with 3: its record has a result for each of the two. -/
theorem snapshots_reliable_two_lines :
    (∀ h ∈ [ticking], h.Calm) ∧ ∃ events w, Run Watch.step (.start "p" [ticking]) events w ∧
      .outputLost ∉ events ∧ w.record.exited = true ∧
      ((Watch.start "p" [ticking]).performed events).filter Task.isCall =
        [.call ticking "a", .call ticking "b"] ∧
      w.record = ⟨"p", [.bool true, .bool true], 3, true⟩ := by
  have hcalm : ∀ h ∈ [ticking], h.Calm := by
    intro h hh
    rw [List.mem_singleton.mp hh]
    exact fun _ _ => rfl
  let events : List Event := [.spawn (.ok ()), .output [97, 10, 98], .reap 3, .store, .work, .work,
    .outputEnd, .work, .work, .finish]
  let w : Watch :=
    ⟨[ticking], ⟨"p", [.bool true, .bool true], 3, true⟩, [], false, [], .finished, true, []⟩
  have hrun : Run Watch.step (.start "p" [ticking]) events w := .of_foldlM rfl
  have hlost : .outputLost ∉ events := by simp [events]
  obtain ⟨retval, hreaped, -, hcalls, hrecord⟩ :=
    (snapshots_reliable "p" [ticking] (fun _ _ _ => []) hcalm).2.1 events w hrun hlost rfl
  have hretval : retval = 3 := by simpa [events] using hreaped
  subst hretval
  have hshown : showing [ticking] (linesOf (outputOf events)) =
      [.call ticking "a", .call ticking "b"] := rfl
  have hresults : (Watch.recordOf "p" [ticking] (linesOf (outputOf events))).finish 3 =
      ⟨"p", [.bool true, .bool true], 3, true⟩ := rfl
  exact ⟨hcalm, events, w, hrun, hlost, rfl, hcalls.trans hshown, hrecord.trans hresults⟩

/-! ### Storing -/

/-- A command may have ended, with any exit code, and its exit handler may have run before its
record is stored. -/
theorem Watch.reported_unstored (id : String) (handlers : List LineHandler) (retval : Int) :
    ∃ events w, Run step (start id handlers) events w ∧ w.record.exited = true ∧
      w.record.retval = retval ∧ w.reports = [w.record] ∧ w.stored = false :=
  ⟨[.spawn (.ok ()), .outputEnd, .reap retval, .finish, .report], _, .of_foldlM rfl, rfl, rfl, rfl,
    rfl⟩

/-- The commands of a batch may have ended and its exit handler may have run before its record is
stored. -/
theorem Batch.reported_unstored (id : String) (react : Nat → Json → Record → List Json)
    (error : IoError) :
    ∃ events b, Run step (start id react) events b ∧ b.record.exited = true ∧
      b.reports = [b.record] ∧ b.stored = false :=
  ⟨[.spawn (.ok 1), .look 0 (.failed error) [], .finish, .report], _, .of_foldlM rfl, rfl, rfl, rfl⟩

end Switchyard.Supervisor
