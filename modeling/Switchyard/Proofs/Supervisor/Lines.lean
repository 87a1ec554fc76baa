import Switchyard.Proofs.Supervisor.Record
import Switchyard.Proofs.Text.Lines

/-!
# Switchyard.Proofs.Supervisor.Lines

Cutting output and showing its lines in pieces. The lines of two pieces, one after the other, are
those of both together (`takeLines_append`), and so is the work of showing them, where no handler
crashes on the way (`workOff_append`). All lines together are the pieces between line feeds
(`linesOf_eq_linesAt`).

Both recursions carry something on from what came before, the bytes of an unfinished line and the
record so far. So the lemmas are stated for any such start: to put two parts together is to go on
from where the first one ended.
-/

namespace Switchyard.Supervisor

/-! ### Cutting -/

theorem takeLines_acc (line : Octets) (acc : List Octets) (s : Octets) :
    takeLines line acc s =
      (acc.reverse ++ (takeLines line [] s).1, (takeLines line [] s).2) := by
  induction s generalizing line acc with
  | nil => simp [takeLines]
  | cons b rest ih =>
      by_cases hb : b = lineFeed
      · simp only [takeLines, hb, if_true]
        rw [ih [] (line.reverse :: acc), ih [] [line.reverse]]
        simp
      · simp only [takeLines, hb, if_false]
        exact ih (b :: line) acc

/-- What comes later goes on with the unfinished line. So it does not matter in what reads the
output comes. -/
theorem takeLines_append (line s t : Octets) :
    takeLines line [] (s ++ t) =
      ((takeLines line [] s).1 ++ (takeLines (takeLines line [] s).2 [] t).1,
        (takeLines (takeLines line [] s).2 [] t).2) := by
  induction s generalizing line with
  | nil => simp [takeLines]
  | cons b rest ih =>
      by_cases hb : b = lineFeed
      · simp only [List.cons_append, takeLines, hb, if_true]
        rw [takeLines_acc [] [line.reverse] (rest ++ t), takeLines_acc [] [line.reverse] rest, ih]
        simp
      · simp only [List.cons_append, takeLines, hb, if_false]
        exact ih (b :: line)

theorem linesOf_eq (s : Octets) :
    linesOf s = (takeLines [] [] s).1 ++ lastLine (takeLines [] [] s).2 := rfl

/-- Bytes without a line feed go on with the unfinished line. -/
theorem takeLines_of_notMem {s : Octets} (h : lineFeed ∉ s) (line : Octets) (acc : List Octets) :
    takeLines line acc s = (acc.reverse, s.reverse ++ line) := by
  induction s generalizing line with
  | nil => rfl
  | cons b rest ih =>
      simp only [List.mem_cons, not_or] at h
      rw [takeLines, if_neg (Ne.symm h.1), ih h.2]
      simp

theorem linesOf_eq_linesAt (s : Octets) : linesOf s = linesAt lineFeed s := by
  induction s using cut_induction lineFeed with
  | last s h =>
      rw [linesAt_of_notMem h, linesOf_eq, takeLines_of_notMem h]
      simp [lastLine]
  | cut s t h ih =>
      rw [linesAt_append_cons h, ← ih, linesOf_eq, linesOf_eq, takeLines_append,
        takeLines_of_notMem h]
      simp only [takeLines, if_true]
      rw [takeLines_acc]
      simp

theorem showing_append (handlers : List LineHandler) (lines more : List Octets) :
    showing handlers (lines ++ more) = showing handlers lines ++ showing handlers more :=
  List.flatMap_append

/-! ### Handlers that do not crash -/

/-- The handler never crashes, whatever line it is called with and whatever the record is then. -/
def LineHandler.Calm (h : LineHandler) : Prop :=
  ∀ groups r, (h.react groups r).crashes = false

theorem LineHandler.Calm.reaction {h : LineHandler} (hcalm : h.Calm) (line : String) (r : Record) :
    (h.reaction line r).crashes = false := by
  unfold LineHandler.reaction
  split
  · exact hcalm _ _
  · rfl

namespace Task

/-- Whether the task is the call of a handler. -/
def isCall : Task → Bool
  | call _ _ => true
  | add _ | crash => false

/-- The task does not lead to a crash. -/
def Calm : Task → Prop
  | call h _ => h.Calm
  | add _ => True
  | crash => False

end Task

/-- A reaction without a crash adds its results. -/
theorem Reaction.tasks_of_calm {a : Reaction} (h : a.crashes = false) :
    a.tasks = a.adds.map .add := by
  simp [tasks, h]

theorem calm_showing {handlers : List LineHandler} (hcalm : ∀ h ∈ handlers, h.Calm)
    (lines : List Octets) : ∀ task ∈ showing handlers lines, task.Calm := by
  intro task htask
  simp only [showing, List.mem_flatMap, List.mem_map] at htask
  obtain ⟨line, -, h, hh, rfl⟩ := htask
  exact hcalm h hh

/-- Showing lines is calling handlers. -/
theorem filter_showing (handlers : List LineHandler) (lines : List Octets) :
    (showing handlers lines).filter Task.isCall = showing handlers lines := by
  refine List.filter_eq_self.mpr fun task htask => ?_
  simp only [showing, List.mem_flatMap, List.mem_map] at htask
  obtain ⟨line, -, h, -, rfl⟩ := htask
  rfl

/-! ### Working off -/

theorem workOff_adds (js : List Json) (tasks : List Task) (r : Record) :
    workOff (js.map .add ++ tasks) r = workOff tasks (r.appendAll js) := by
  induction js generalizing r with
  | nil => rfl
  | cons j js ih => exact ih (r.append j)

/-- Calling a handler leaves what it does in reaction to be done first. -/
theorem workOff_call (h : LineHandler) (line : String) (rest : List Task) (r : Record) :
    workOff (.call h line :: rest) r = workOff ((h.reaction line r).tasks ++ rest) r := by
  rw [Reaction.tasks, List.append_assoc, workOff_adds]
  cases hcrash : (h.reaction line r).crashes <;> simp [workOff, hcrash]

/-- Where nothing crashes, the later tasks go on with the record that the earlier ones leave. A
crash would drop the later tasks, so there it would be false. -/
theorem workOff_append (tasks more : List Task) (r : Record) (hcalm : ∀ task ∈ tasks, task.Calm) :
    workOff (tasks ++ more) r = workOff more (workOff tasks r).1 := by
  induction tasks generalizing r with
  | nil => rfl
  | cons task rest ih =>
      have hrest : ∀ task ∈ rest, task.Calm := fun task ht => hcalm task (List.mem_cons_of_mem _ ht)
      cases task with
      | call h line =>
          have hcalls : h.Calm := hcalm (.call h line) List.mem_cons_self
          simp only [List.cons_append, workOff, hcalls.reaction line r, Bool.false_eq_true, if_false]
          exact ih _ hrest
      | add j => exact ih _ hrest
      | crash => exact absurd (hcalm .crash List.mem_cons_self) id

theorem workOff_alive (tasks : List Task) (r : Record) (hcalm : ∀ task ∈ tasks, task.Calm) :
    (workOff tasks r).2 = true := by
  fun_induction workOff tasks r with
  | case1 => rfl
  | case2 h line rest r a hcrash =>
      have hcalls : h.Calm := hcalm (.call h line) List.mem_cons_self
      rw [hcalls.reaction line r] at hcrash
      cases hcrash
  | case3 h line rest r a hcrash ih => exact ih fun task ht => hcalm task (List.mem_cons_of_mem _ ht)
  | case4 j rest r ih => exact ih fun task ht => hcalm task (List.mem_cons_of_mem _ ht)
  | case5 => exact absurd (hcalm .crash List.mem_cons_self) id

/-- A handler that adds one result for each line leaves these results, in order. By induction on the
lines, with the record as it is so far. -/
theorem workOff_showing {h : LineHandler} {entry : String → Json} {lines : List Octets}
    (hlines : ∀ line ∈ lines, ∀ r,
      h.reaction (Utf8.decodeLossy line) r = .append (entry (Utf8.decodeLossy line)))
    (r : Record) :
    workOff (showing [h] lines) r =
      ({ r with records := r.records ++ lines.map fun line => entry (Utf8.decodeLossy line) },
        true) := by
  induction lines generalizing r with
  | nil => simp [showing, workOff]
  | cons line rest ih =>
      have hfirst := hlines line List.mem_cons_self r
      have hrest := ih fun other hother => hlines other (List.mem_cons_of_mem _ hother)
      have hshown : showing [h] (line :: rest) =
          .call h (Utf8.decodeLossy line) :: showing [h] rest := rfl
      have hadds (j : Json) : (Reaction.append j).tasks = [.add j] := rfl
      rw [hshown, workOff_call, hfirst, hadds, List.singleton_append, workOff, hrest]
      simp [Record.append]

end Switchyard.Supervisor
