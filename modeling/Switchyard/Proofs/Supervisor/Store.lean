import Switchyard.Supervisor.Record

/-!
# Switchyard.Proofs.Supervisor.Store

**A store keeps what was added last.** `Keeps` says of a store which ids were ever added to it, and
that what it keeps are the entries of the newest of them, as many as its capacity allows, in the
order in which they were added.

* Adding an entry adds its id (`Keeps.add`); nothing else moves or drops an entry, and changing the
  entries themselves keeps all of that as long as they keep their ids (`Keeps.changed`).
* So an id is found exactly while fewer entries than the capacity were added after it
  (`Keeps.isSome_find?_iff`).

The invariant says where each kept entry comes from by its number: entries are numbered as they are
added, and the numbers that are kept are the last ones.
-/

namespace Switchyard.Supervisor

/-- The last entries of a list, as many as a capacity allows; zero counts as one, since a store
keeps at least what was added last. -/
def newest {α : Type} (capacity : Nat) (l : List α) : List α :=
  l.drop (l.length - max capacity 1)

section Newest

variable {α : Type} {capacity : Nat}

theorem length_newest_le (l : List α) : (newest capacity l).length ≤ max capacity 1 := by
  simp only [newest, List.length_drop]
  omega

theorem map_newest {β : Type} (f : α → β) (l : List α) :
    (newest capacity l).map f = newest capacity (l.map f) := by
  simp [newest, List.map_drop]

/-- Something is among the last entries if there are few enough after it. It may be there more than
once; then one of its places is enough. -/
theorem mem_newest_iff {a : α} {l : List α} :
    a ∈ newest capacity l ↔
      ∃ earlier later, l = earlier ++ a :: later ∧ later.length < max capacity 1 := by
  constructor
  · intro h
    obtain ⟨before, later, hsplit⟩ := List.append_of_mem h
    refine ⟨l.take (l.length - max capacity 1) ++ before, later, ?_, ?_⟩
    · rw [List.append_assoc, ← hsplit, newest, List.take_append_drop]
    · have hle : (newest capacity l).length ≤ max capacity 1 := length_newest_le l
      rw [hsplit] at hle
      simp only [List.length_append, List.length_cons] at hle
      omega
  · rintro ⟨earlier, later, rfl, hfew⟩
    have hle : (earlier ++ a :: later).length - max capacity 1 ≤ earlier.length := by
      simp only [List.length_append, List.length_cons]
      omega
    rw [newest, List.drop_append_of_le_length hle]
    exact List.mem_append_right _ List.mem_cons_self

/-- Admitting the next number keeps the last numbers. -/
theorem admitted_newest (n : Nat) :
    Store.admitted capacity (newest capacity (List.range n)) n =
      newest capacity (List.range (n + 1)) := by
  have hdrop : n - max capacity 1 + (n - (n - max capacity 1) + 1 - max capacity 1) =
      n + 1 - max capacity 1 := by
    omega
  have hle : n + 1 - max capacity 1 ≤ (List.range n).length := by
    simp only [List.length_range]
    omega
  simp only [Store.admitted, newest, List.drop_drop, List.length_drop, List.length_range, hdrop]
  rw [List.range_succ, List.drop_append_of_le_length hle]

/-- The last entries are those with the last numbers. -/
theorem filterMap_newest_range (l : List α) :
    (newest capacity (List.range l.length)).filterMap (fun n => l[n]?) = newest capacity l := by
  have hall : (List.range l.length).map (fun n => l[n]?) = l.map some := by
    apply List.ext_getElem
    · simp
    · intro n h _
      simp only [List.length_map, List.length_range] at h
      simp [h]
  calc (newest capacity (List.range l.length)).filterMap (fun n => l[n]?)
      = ((newest capacity (List.range l.length)).map (fun n => l[n]?)).filterMap id := by
        rw [List.filterMap_map]; rfl
    _ = ((newest capacity l).map some).filterMap id := by rw [map_newest, hall, map_newest]
    _ = newest capacity l := by simp [List.filterMap_map]

end Newest

namespace Store

variable {α : Type} {idOf : α → String} {capacity : Nat} {ids : List String} {s t : Store α}

/-- The store keeps the newest of the entries that had these ids, in the order in which they were
added. -/
structure Keeps (idOf : α → String) (capacity : Nat) (ids : List String) (s : Store α) : Prop where
  capacity_eq : s.capacity = capacity
  /-- The ids of all entries there have been. -/
  made : s.made.map idOf = ids
  kept : s.kept = newest capacity (List.range s.made.length)

theorem keeps_empty : Keeps idOf capacity [] (.empty capacity : Store α) :=
  ⟨rfl, rfl, by simp [empty, newest]⟩

namespace Keeps

theorem add (h : Keeps idOf capacity ids s) (a : α) :
    Keeps idOf capacity (ids ++ [idOf a]) (s.add a) where
  capacity_eq := h.capacity_eq
  made := by simp [Store.add, make, insert, h.made]
  kept := by
    have hkept : admitted capacity (newest capacity (List.range s.made.length)) s.made.length =
        newest capacity (List.range (s.made.length + 1)) :=
      admitted_newest s.made.length
    simpa [Store.add, make, insert, h.capacity_eq, h.kept] using hkept

/-- Entries may change, but not their ids. Time does this to a store. -/
theorem changed (h : Keeps idOf capacity ids s) (hcapacity : t.capacity = s.capacity)
    (hkept : t.kept = s.kept) (hmade : t.made.map idOf = s.made.map idOf) :
    Keeps idOf capacity ids t where
  capacity_eq := hcapacity.trans h.capacity_eq
  made := hmade.trans h.made
  kept := by
    have hlength : t.made.length = s.made.length := by
      simpa using congrArg List.length hmade
    rw [hkept, h.kept, hlength]

theorem entries (h : Keeps idOf capacity ids s) : s.entries.map idOf = newest capacity ids := by
  rw [Store.entries, h.kept, filterMap_newest_range, map_newest, h.made]

theorem size_le (h : Keeps idOf capacity ids s) : s.size ≤ max capacity 1 := by
  rw [size, h.kept]
  exact length_newest_le _

/-- **An id is found exactly while few enough entries were added after it.** -/
theorem isSome_find?_iff (h : Keeps idOf capacity ids s) (id : String) :
    (s.find? idOf id).isSome ↔
      ∃ earlier later, ids = earlier ++ id :: later ∧ later.length < max capacity 1 := by
  rw [← mem_newest_iff, ← h.entries, find?, List.find?_isSome]
  simp

end Keeps
end Store
end Switchyard.Supervisor
