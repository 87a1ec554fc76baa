import Mathlib.Data.String.Basic
import Switchyard.Route.Module

/-!
# Switchyard.Proofs.Route.Registry

The registry seen through its lookup: which module a name finds after a registration, and what a
route resolves to. A registry is a finite map from names to modules, so two registries that find
the same module under every name are the same to every request.

* `Registry.find?_register` — registering a module changes the answer for its own name only.
* `Registry.find?_elapse` — while time passes every name keeps its module.
* `Registry.resolve_eq_some_iff` — a route resolves to the module of its name and to the first
  action of that name the module declares; both bear the names asked for (`resolve_names`).
* `Registry.Ordered` — every registry has its modules in strict order of their names: the empty one
  does, and registering, restricting and the passing of time keep it.
* `Registry.find?_build` — of the modules of a name that are registered one after another the last
  one stays, if the name is allowed.

The list is kept in order so that registering can go through it once. Everything that uses a
registry goes by the lookup, and the order is needed for two things only: that a module in the list
is the one that is found under its name, and that restricting a registry to a name leaves one
module.
-/

namespace Switchyard.Route

namespace Registry

/-! ### Lookup -/

@[simp] theorem find?_nil (name : String) : find? [] name = none := rfl

@[simp] theorem find?_cons (m : Module) (r : Registry) (name : String) :
    find? (m :: r) name = if m.name = name then some m else find? r name := by
  unfold find?
  by_cases h : m.name = name
  · rw [List.find?_cons_of_pos (by simpa using h), if_pos h]
  · rw [List.find?_cons_of_neg (by simpa using h), if_neg h]

/-- A module is found under its own name. -/
theorem name_of_find? {r : Registry} {name : String} {m : Module} (h : r.find? name = some m) :
    m.name = name := by
  simpa using List.find?_some h

/-- A registration changes what is found under the module's own name, and nothing else. By induction
over the list, with the three ways in which a name can compare to the first one. -/
theorem find?_register (m : Module) (r : Registry) (name : String) :
    (r.register m).find? name = if m.name = name then some m else r.find? name := by
  induction r with
  | nil => rw [register, find?_cons]
  | cons n rest ih =>
      unfold register
      by_cases hlt : m.name < n.name
      · rw [if_pos hlt, find?_cons]
      · rw [if_neg hlt]
        by_cases heq : m.name = n.name
        · rw [if_pos heq, find?_cons, find?_cons, ← heq]
          by_cases hm : m.name = name
          · rw [if_pos hm, if_pos hm]
          · rw [if_neg hm, if_neg hm, if_neg hm]
        · rw [if_neg heq, find?_cons, find?_cons, ih]
          by_cases hn : n.name = name
          · -- `n` stands in front of the place where `m` went, and has another name.
            have hm : m.name ≠ name := fun hm => heq (hm.trans hn.symm)
            rw [if_pos hn, if_neg hm, if_pos hn]
          · rw [if_neg hn, if_neg hn]

/-- While time passes each module moves on by itself. -/
theorem find?_elapse (ms : Nat) (r : Registry) (name : String) :
    (r.elapse ms).1.find? name =
      (r.find? name).map fun m => { m with state := (m.elapse ms m.state).1 } := by
  induction r with
  | nil => rfl
  | cons m rest ih =>
      have hcons : (elapse ms (m :: rest)).1 =
          { m with state := (m.elapse ms m.state).1 } :: (elapse ms rest).1 := rfl
      rw [hcons, find?_cons, find?_cons, ih]
      by_cases hm : m.name = name
      · rw [if_pos hm, if_pos hm, Option.map_some]
      · rw [if_neg hm, if_neg hm]

/-! ### Routes -/

theorem resolve_eq_some_iff {r : Registry} {module action : String} {m : Module} {a : Action} :
    r.resolve module action = some (m, a) ↔
      r.find? module = some m ∧ m.action? action = some a := by
  unfold resolve
  rw [Option.bind_eq_some_iff]
  constructor
  · rintro ⟨n, hn, h⟩
    obtain ⟨b, hb, heq⟩ := Option.map_eq_some_iff.mp h
    obtain ⟨rfl, rfl⟩ := Prod.mk.inj heq
    exact ⟨hn, hb⟩
  · rintro ⟨hm, ha⟩
    exact ⟨m, hm, Option.map_eq_some_iff.mpr ⟨a, ha, rfl⟩⟩

/-- What a route resolves to bears the names of the route. -/
theorem resolve_names {r : Registry} {module action : String} {m : Module} {a : Action}
    (h : r.resolve module action = some (m, a)) : m.name = module ∧ a.name = action := by
  obtain ⟨hm, ha⟩ := resolve_eq_some_iff.mp h
  exact ⟨name_of_find? hm, by simpa using List.find?_some ha⟩

/-- Under a name that finds no module there is no route. -/
theorem resolve_of_find?_eq_none {r : Registry} {module : String} (h : r.find? module = none)
    (action : String) : r.resolve module action = none := by
  unfold resolve
  rw [h]
  rfl

/-! ### Order -/

/-- The modules stand in strict order of their names, so no two of them share one. -/
def Ordered (r : Registry) : Prop :=
  r.Pairwise fun m n => m.name < n.name

instance (r : Registry) : Decidable r.Ordered :=
  inferInstanceAs (Decidable (List.Pairwise _ _))

theorem ordered_nil : Ordered [] :=
  List.Pairwise.nil

/-- What was there before a registration, and the registered module, is all there is after it. -/
theorem mem_of_mem_register {m n : Module} {r : Registry} (h : n ∈ r.register m) :
    n = m ∨ n ∈ r := by
  induction r with
  | nil => exact .inl (List.mem_singleton.mp h)
  | cons first rest ih =>
      unfold register at h
      split at h
      · exact List.mem_cons.mp h
      · split at h
        · exact (List.mem_cons.mp h).imp_right (List.mem_cons_of_mem first)
        · rcases List.mem_cons.mp h with rfl | hrest
          · exact .inr List.mem_cons_self
          · exact (ih hrest).imp_right (List.mem_cons_of_mem first)

/-- A registration keeps the order. A module of the same name is replaced in its place. -/
theorem Ordered.register {r : Registry} (h : r.Ordered) (m : Module) : (r.register m).Ordered := by
  induction r with
  | nil => exact List.pairwise_singleton _ m
  | cons first rest ih =>
      obtain ⟨hfirst, hrest⟩ := List.pairwise_cons.mp h
      unfold Registry.register
      by_cases hlt : m.name < first.name
      · rw [if_pos hlt]
        refine List.pairwise_cons.mpr ⟨fun n hn => ?_, h⟩
        rcases List.mem_cons.mp hn with rfl | hn
        · exact hlt
        · exact hlt.trans (hfirst n hn)
      · rw [if_neg hlt]
        by_cases heq : m.name = first.name
        · rw [if_pos heq]
          exact List.pairwise_cons.mpr ⟨fun n hn => heq ▸ hfirst n hn, hrest⟩
        · rw [if_neg heq]
          refine List.pairwise_cons.mpr ⟨fun n hn => ?_, ih hrest⟩
          rcases mem_of_mem_register hn with rfl | hn
          · exact lt_of_le_of_ne (not_lt.mp hlt) (Ne.symm heq)
          · exact hfirst n hn

theorem Ordered.only {r : Registry} (h : r.Ordered) (name : String) : (r.only name).Ordered :=
  List.Pairwise.filter _ h

theorem Ordered.elapse {r : Registry} (h : r.Ordered) (ms : Nat) : (r.elapse ms).1.Ordered := by
  unfold Ordered Registry.elapse
  dsimp only
  rw [List.map_map]
  exact List.pairwise_map.mpr h

theorem ordered_foldl_register {r : Registry} (h : r.Ordered) (modules : List Module) :
    Ordered (modules.foldl (fun r m => r.register m) r) := by
  induction modules generalizing r with
  | nil => exact h
  | cons m rest ih => exact ih (h.register m)

theorem ordered_build (allowed : List String) (modules : List Module) :
    (build allowed modules).Ordered :=
  ordered_foldl_register ordered_nil _

/-- In a registry, a module is the only one of its name. -/
theorem Ordered.name_ne {before after : List Module} {m n : Module}
    (h : Ordered (before ++ m :: after)) (hn : n ∈ before ++ after) : n.name ≠ m.name := by
  obtain ⟨-, hlast, hbefore⟩ := List.pairwise_append.mp h
  obtain ⟨hafter, -⟩ := List.pairwise_cons.mp hlast
  rcases List.mem_append.mp hn with hn | hn
  · exact ne_of_lt (hbefore n hn m List.mem_cons_self)
  · exact ne_of_gt (hafter n hn)

/-- What is in a registry is found under its name. -/
theorem Ordered.find?_of_mem {r : Registry} {m : Module} (h : r.Ordered) (hm : m ∈ r) :
    r.find? m.name = some m := by
  obtain ⟨before, after, rfl⟩ := List.append_of_mem hm
  have hbefore : before.find? (·.name = m.name) = none := by
    refine List.find?_eq_none.mpr fun n hn => ?_
    simpa using h.name_ne (List.mem_append_left after hn)
  unfold find?
  rw [List.find?_append, hbefore, List.find?_cons_of_pos (by simp), Option.none_or]

theorem mem_names_iff {r : Registry} {name : String} :
    name ∈ r.names ↔ ∃ m, r.find? name = some m := by
  unfold names find?
  rw [← Option.isSome_iff_exists, List.find?_isSome, List.mem_map]
  simp

/-! ### One registration after another -/

/-- Of the modules of a name that are registered, the last one stays, or what was there before if
there is none among them. -/
theorem find?_foldl_register (modules : List Module) (r : Registry) (name : String) :
    (modules.foldl (fun r m => r.register m) r).find? name =
      (modules.reverse.find? (·.name = name)).or (r.find? name) := by
  induction modules generalizing r with
  | nil => rfl
  | cons m rest ih =>
      rw [List.foldl_cons, ih, List.reverse_cons, List.find?_append, Option.or_assoc, find?_register]
      by_cases hm : m.name = name
      · rw [if_pos hm, List.find?_cons_of_pos (by simpa using hm), Option.some_or]
      · rw [if_neg hm, List.find?_cons_of_neg (by simpa using hm), List.find?_nil, Option.none_or]

/-- A list of allowed names lets a name through whole or not at all. An empty list allows every
name. -/
theorem find?_build (allowed : List String) (modules : List Module) (name : String) :
    (build allowed modules).find? name =
      if allowed.isEmpty || allowed.contains name then modules.reverse.find? (·.name = name)
      else none := by
  unfold build
  rw [find?_foldl_register, find?_nil, Option.or_none, ← List.filter_reverse, List.find?_filter]
  cases hallowed : allowed.isEmpty || allowed.contains name with
  | true =>
      rw [if_pos rfl]
      congr 1
      funext m
      by_cases hm : m.name = name
      · rw [hm, hallowed]
        simp
      · simp [hm]
  | false =>
      rw [if_neg Bool.false_ne_true]
      refine List.find?_eq_none.mpr fun m _ => ?_
      by_cases hm : m.name = name
      · rw [hm, hallowed]
        simp
      · simp [hm]

end Registry
end Switchyard.Route
