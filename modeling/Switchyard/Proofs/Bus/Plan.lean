import Switchyard.Bus.Worker
import Switchyard.Proofs.Route.Registry

/-!
# Switchyard.Proofs.Bus.Plan

**However the modules are spread over workers, each route has one worker**
(`plan_keeps_routes`), which resolves it to the module and the action that the whole registry has
for it. With a worker for each module, the registries of the workers are the modules one by one
(`plan_separate`): a registry is in order, so its restriction to a name is the one module of that
name. Such a worker has the routes of its module, as the whole registry has them, and no others
(`resolve_singleton`).

What a single worker does is what the whole registry does, so the case of one worker is trivial and
all of the argument is about the other one. There a route is resolved by the worker of its module
because that is where the module is, and by no other because names in a registry differ: `name_ne`
of an ordered registry.
-/

namespace Switchyard.Bus

open Route

variable {r : Registry} {m : Module} {module action : String} {found : Module × Action}

/-- A restriction to the name of a module leaves this module alone. -/
theorem only_of_mem (h : r.Ordered) (hm : m ∈ r) : r.only m.name = [m] := by
  obtain ⟨before, after, rfl⟩ := List.append_of_mem hm
  have hnone {part : List Module} (hpart : ∀ n ∈ part, n ∈ before ++ after) :
      part.filter (·.name = m.name) = [] := by
    refine List.filter_eq_nil_iff.mpr fun n hn => ?_
    simpa using h.name_ne (hpart n hn)
  unfold Registry.only
  rw [List.filter_append, hnone fun n hn => List.mem_append_left _ hn,
    List.filter_cons_of_pos (by simp), hnone fun n hn => List.mem_append_right _ hn, List.nil_append]

/-- With workers of their own, each module makes up the registry of one. The plan restricts the
whole registry to each name in turn. -/
theorem plan_separate (h : r.Ordered) : plan false r = r.map fun m => [m] := by
  unfold plan Registry.names
  rw [if_neg Bool.false_ne_true, List.map_map]
  exact List.map_congr_left fun m hm => only_of_mem h hm

/-- A registry of one module has the routes of this module, as the whole registry has them, and no
others. -/
theorem resolve_singleton (h : r.Ordered) (hm : m ∈ r) (module action : String) :
    Registry.resolve [m] module action =
      if m.name = module then r.resolve module action else none := by
  by_cases hname : m.name = module
  · rw [if_pos hname]
    unfold Registry.resolve
    rw [Registry.find?_cons, if_pos hname, ← hname, h.find?_of_mem hm]
  · rw [if_neg hname]
    refine Registry.resolve_of_find?_eq_none ?_ action
    rw [Registry.find?_cons, if_neg hname, Registry.find?_nil]

/-- One of the workers resolves a route, to what is given, and none of the others does. The others
are told by their places, so that two workers with equal registries would not count as one. -/
inductive ResolvedOnce (module action : String) (found : Module × Action) : List Registry → Prop
  | intro {before after : List Registry} {worker : Registry}
      (resolved : worker.resolve module action = some found)
      (others : ∀ other ∈ before ++ after, other.resolve module action = none) :
      ResolvedOnce module action found (before ++ worker :: after)

theorem resolvedOnce_separate (h : r.Ordered) (hfound : r.resolve module action = some found) :
    ResolvedOnce module action found (r.map fun m => [m]) := by
  obtain ⟨hm, -⟩ := Registry.resolve_eq_some_iff.mp hfound
  have hname := Registry.name_of_find? hm
  -- The module of the route stands somewhere in the registry; its worker is the one in the same
  -- place.
  obtain ⟨before, after, rfl⟩ := List.append_of_mem (List.mem_of_find?_eq_some hm)
  rw [List.map_append, List.map_cons]
  refine .intro ?_ fun other hother => ?_
  · rw [resolve_singleton h (by simp), if_pos hname, hfound]
  · rw [← List.map_append] at hother
    obtain ⟨n, hn, rfl⟩ := List.mem_map.mp hother
    have hmem : n ∈ before ++ found.1 :: after := by
      rcases List.mem_append.mp hn with hn | hn
      · exact List.mem_append_left _ hn
      · exact List.mem_append_right _ (List.mem_cons_of_mem _ hn)
    rw [resolve_singleton h hmem, if_neg (hname ▸ h.name_ne hn)]

/-- **Each route has one worker.** A route of the whole registry is resolved by exactly one worker,
to the same module and action; a route that it does not have is resolved by none. Together the
workers have the modules of the registry and no others, and none of them is idle while there are
any. -/
theorem plan_keeps_routes (h : r.Ordered) (single : Bool) :
    (∀ module action found, r.resolve module action = some found →
      ResolvedOnce module action found (plan single r)) ∧
    (∀ module action, r.resolve module action = none →
      ∀ worker ∈ plan single r, worker.resolve module action = none) ∧
    (plan single r).flatten = r ∧ ([] ∈ plan single r → r = []) := by
  cases single with
  | true =>
      have hplan : plan true r = [r] := rfl
      rw [hplan]
      refine ⟨?_, ?_, ?_, ?_⟩
      · intro module action found hfound
        show ResolvedOnce module action found ([] ++ r :: [])
        exact .intro hfound (by simp)
      · intro module action hnone worker hworker
        rwa [List.mem_singleton.mp hworker]
      · rw [List.flatten_singleton]
      · intro hempty
        exact (List.mem_singleton.mp hempty).symm
  | false =>
      rw [plan_separate h]
      refine ⟨?_, ?_, ?_, ?_⟩
      · intro module action found hfound
        exact resolvedOnce_separate h hfound
      · intro module action hnone worker hworker
        obtain ⟨m, hm, rfl⟩ := List.mem_map.mp hworker
        rw [resolve_singleton h hm, hnone, ite_self]
      · rw [← List.flatMap_def, List.flatMap_singleton']
      · intro hempty
        obtain ⟨m, -, hm⟩ := List.mem_map.mp hempty
        exact absurd hm (List.cons_ne_nil m [])

/-- An action without a payload. -/
def plainAction (name : String) : Action :=
  ⟨name, false, none, ⟨[], []⟩⟩

/-- A module with one action, which gives back what it gets. -/
def plainModule (name action : String) : Module :=
  .passive name [plainAction action] () fun _ data s => ⟨s, .returned (data.getD .null), [], [], 0⟩

/-- Two modules of which one has a name that begins like the other's. They are planned apart, and
neither worker answers for the other. -/
theorem plan_keeps_routes_alike :
    let r : Registry := [plainModule "dns" "get", plainModule "dnsmasq" "get"]
    r.Ordered ∧ ResolvedOnce "dns" "get" (plainModule "dns" "get", plainAction "get")
      (plan false r) ∧
      ∀ worker ∈ plan false r, worker.resolve "dn" "get" = none := by
  intro r
  have h : r.Ordered := by decide
  exact ⟨h, (plan_keeps_routes h false).1 "dns" "get" _ rfl,
    (plan_keeps_routes h false).2.1 "dn" "get" rfl⟩

end Switchyard.Bus
