import Switchyard.Proofs.Supervisor.Polling

/-!
# Switchyard.Proofs.Supervisor.Verdict

**The exit code of a batch is the largest code of its children** (`Supervised.retval_largest`), and
where each of them could be waited for, it is 0 exactly if all of them exited with 0
(`Supervised.retval_eq_zero_iff`).

A wait that fails counts as `-1` and is less than every code, so beside a child that exited with 0
it does not show (`failed_wait_hidden`).
-/

namespace Switchyard.Supervisor

/-- The code of an end that the system tells is 0 only for a child that exited with 0. -/
theorem ExitStatus.toCode_pos {status : ExitStatus} (hknown : status ≠ .unknown)
    (hfailed : status ≠ .code 0) : 0 < status.toCode := by
  cases status with
  | code n =>
      have hn : n ≠ 0 := fun h => hfailed (congrArg ExitStatus.code h)
      simp only [ExitStatus.toCode]
      omega
  | signal n =>
      simp only [ExitStatus.toCode]
      omega
  | unknown => exact absurd rfl hknown

namespace Watched

variable {w : Watched} {status : ExitStatus}

theorem code_eq_of_ended (h : w.looks w.last = .ended status) : w.code = status.toCode :=
  Option.some.inj (w.code?_last.symm.trans (congrArg Look.code? h))

end Watched

namespace Batch

variable {b mid last : Batch} {ws : List Watched} {looks : List BatchEvent}

theorem retval_eq (h : b.ends = ws.map fun w => some w.code) :
    b.retval = ((ws.map (·.code)).max?).getD 0 := by
  have hcodes : b.ends.filterMap id = ws.map (·.code) := by
    rw [h, List.filterMap_map, Function.id_comp]
    exact congrFun List.filterMap_eq_map ws
  rw [retval, hcodes]

namespace Supervised

/-- The exit code is that of a child, and no child has a larger one. Of no children it would be 0,
so there must be some. -/
theorem retval_largest (h : Supervised ws looks b mid last) (hne : ws ≠ []) :
    (∃ w ∈ ws, w.code = last.record.retval) ∧ ∀ w ∈ ws, w.code ≤ last.record.retval := by
  have hretval : last.record.retval = ((ws.map (·.code)).max?).getD 0 := by
    rw [h.record]
    exact retval_eq h.ends
  cases hmax : (ws.map (·.code)).max? with
  | none => exact absurd (List.map_eq_nil_iff.mp (List.max?_eq_none_iff.mp hmax)) hne
  | some code =>
      obtain ⟨hmem, hle⟩ := List.max?_eq_some_iff.mp hmax
      rw [hretval, hmax, Option.getD_some]
      exact ⟨List.mem_map.mp hmem, fun w hw => hle _ (List.mem_map_of_mem hw)⟩

/-- **Where no wait failed, the exit code of a batch is 0 exactly if all children exited with 0.**
Any other end that the system tells counts as a positive code, so one child that failed is enough to
make the largest code positive. -/
theorem retval_eq_zero_iff (h : Supervised ws looks b mid last) (hne : ws ≠ [])
    (hwaited : ∀ w ∈ ws, ∃ status, w.looks w.last = .ended status ∧ status ≠ .unknown) :
    last.record.retval = 0 ↔ ∀ w ∈ ws, w.looks w.last = .ended (.code 0) := by
  obtain ⟨⟨v, hv, hcode⟩, hle⟩ := h.retval_largest hne
  constructor
  · intro hzero w hw
    obtain ⟨status, hended, hknown⟩ := hwaited w hw
    by_cases hstatus : status = .code 0
    · rw [hended, hstatus]
    · have hpos := status.toCode_pos hknown hstatus
      have hnonpos := hle w hw
      rw [Watched.code_eq_of_ended hended, hzero] at hnonpos
      omega
  · intro hall
    rw [← hcode, Watched.code_eq_of_ended (hall v hv)]
    rfl

end Supervised

/-- The exit code of a batch of a child that exited with 0 and one that could not be waited for. -/
theorem failed_wait_hidden :
    ((start "0" fun _ _ _ => []).steps [.spawn (.ok 2), .look 0 (.ended (.code 0)) [],
      .look 1 (.failed (.os 10)) [], .finish]).record = ⟨"0", [], 0, true⟩ := rfl

end Batch
end Switchyard.Supervisor
