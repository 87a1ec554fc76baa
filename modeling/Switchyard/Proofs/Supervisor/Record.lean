import Switchyard.Supervisor.Lines

/-!
# Switchyard.Proofs.Supervisor.Record

How a record changes: it keeps its id, it only gets more results until it is finished, and it stays
as it is after that (`Record.Grows`).

This is an order on records (`Grows.refl`, `Grows.trans`), so what holds of one step holds of many.
-/

namespace Switchyard.Supervisor
namespace Record

@[simp] theorem id_append (j : Json) (r : Record) : (r.append j).id = r.id := rfl

@[simp] theorem id_finish (retval : Int) (r : Record) : (r.finish retval).id = r.id := rfl

@[simp] theorem appendAll_cons (j : Json) (js : List Json) (r : Record) :
    r.appendAll (j :: js) = (r.append j).appendAll js := rfl

@[simp] theorem id_appendAll (js : List Json) (r : Record) : (r.appendAll js).id = r.id := by
  induction js generalizing r with
  | nil => rfl
  | cons j js ih => rw [appendAll_cons, ih, id_append]

/-- What a record may become. Two who look at it one after the other see records in this order. -/
structure Grows (r s : Record) : Prop where
  id : s.id = r.id
  /-- Results are only added, and only at the end. -/
  records : r.records <+: s.records
  /-- A finished record stays as it is. -/
  settled : r.exited = true → s = r

namespace Grows

variable {r s t : Record}

theorem refl (r : Record) : r.Grows r :=
  ⟨rfl, List.prefix_refl _, fun _ => rfl⟩

theorem trans (h : r.Grows s) (h' : s.Grows t) : r.Grows t where
  id := h'.id.trans h.id
  records := h.records.trans h'.records
  settled hr := by
    have hs := h.settled hr
    subst hs
    exact h'.settled hr

theorem append (h : r.exited = false) (j : Json) : r.Grows (r.append j) :=
  ⟨rfl, List.prefix_append _ _, by simp [h]⟩

theorem finish (h : r.exited = false) (retval : Int) : r.Grows (r.finish retval) :=
  ⟨rfl, List.prefix_refl _, by simp [h]⟩

end Grows
end Record

@[simp] theorem id_workOff (tasks : List Task) (r : Record) : (workOff tasks r).1.id = r.id := by
  fun_induction workOff tasks r <;> simp_all

end Switchyard.Supervisor
