import Switchyard.Modules.Dns
import Switchyard.Modules.Echo
import Switchyard.PubSub.Session
import Switchyard.Proofs.PubSub.Filter

/-!
# Switchyard.Proofs.PubSub.Session

**What a new connection subscribes to.** The queue takes the subscriptions of as many modules, in
order, as there is room for, less those that no broker would take; the others are lost until the
next connection (`subscriptions_queued_iff`).

* `foldl_ask`: requests that are asked one after another fill the queue with the first sound ones.
* `isFilter_requestFilter_iff`: the filter for a module is sound when no level of the controller or
  of the module holds a wildcard beside something else.

The queue has two reasons not to take a request, and they are of different kinds. The first is a
property of the request: the broker's client refuses a filter or a topic that is not well formed.
The second is a property of the moment: the queue is full. `foldl_ask` puts both into one formula
for many requests, a filter and then a bound; and since the module list is in order, the
subscriptions that are lost for lack of room are those of the last modules.
-/

namespace Switchyard.PubSub

open Route

variable {a : Asked} {o : Outbox} {t : Topics} {module : String}

/-! ### The queue -/

theorem ask_of_room (hsound : a.isSound = true) (hroom : o.length < capacity) :
    o.ask a = (true, o ++ [a]) := by
  unfold Outbox.ask Outbox.offer
  rw [if_pos hsound, if_pos hroom]

theorem ask_of_full (hfull : capacity ≤ o.length) : o.ask a = (false, o) := by
  unfold Outbox.ask Outbox.offer
  rw [if_neg (Nat.not_lt.mpr hfull), ite_self]

theorem ask_of_unsound (hsound : ¬a.isSound = true) : o.ask a = (false, o) := by
  unfold Outbox.ask
  rw [if_neg hsound]

/-- A notification is announced on a topic without wildcards, if there is room. -/
theorem notify_of_room {e : Envelope}
    (hsound : isTopic (t.notification e.module e.action) = true) (hroom : o.length < capacity) :
    notify t e o = (.ok (), o ++ [announcement t e]) := by
  have hasked : o.ask (announcement t e) = (true, o ++ [announcement t e]) :=
    ask_of_room hsound hroom
  unfold notify
  rw [hasked]
  rfl

/-- A notification is not announced on a topic with a wildcard. -/
theorem notify_of_unsound {e : Envelope}
    (hsound : ¬isTopic (t.notification e.module e.action) = true) :
    notify t e o = (.error .publish, o) := by
  have hasked : o.ask (announcement t e) = (false, o) := ask_of_unsound hsound
  unfold notify
  rw [hasked]
  rfl

/-- A request comes into the queue exactly when it is sound and there is room. -/
theorem ask_queues_iff : (o.ask a).2 = o ++ [a] ↔ a.isSound = true ∧ o.length < capacity := by
  by_cases hsound : a.isSound = true
  · by_cases hroom : o.length < capacity
    · simp [ask_of_room hsound hroom, hsound, hroom]
    · simp [ask_of_full (Nat.not_lt.mp hroom), hroom]
  · simp [ask_of_unsound hsound, hsound]

/-- Requests that are asked one after another: the sound ones come into the queue, as long as there
is room. -/
theorem foldl_ask (asked : List Asked) (o : Outbox) :
    asked.foldl (fun o a => (o.ask a).2) o =
      o ++ (asked.filter Asked.isSound).take (capacity - o.length) := by
  induction asked generalizing o with
  | nil => simp
  | cons a rest ih =>
      rw [List.foldl_cons, ih]
      by_cases hsound : a.isSound = true
      · rw [List.filter_cons_of_pos hsound]
        by_cases hroom : o.length < capacity
        · have hleft : capacity - o.length = capacity - (o ++ [a]).length + 1 := by
            rw [List.length_append, List.length_singleton]
            omega
          rw [ask_of_room hsound hroom, hleft, List.take_succ_cons, List.append_assoc,
            List.singleton_append]
        · have hleft : capacity - o.length = 0 := by omega
          rw [ask_of_full (Nat.not_lt.mp hroom), hleft, List.take_zero, List.take_zero]
      · rw [ask_of_unsound hsound, List.filter_cons_of_neg hsound]

/-- A list is left whole by a filter and a bound exactly when all of it passes and fits. -/
theorem take_filter_eq_self_iff {α : Type} {p : α → Bool} {xs : List α} {n : Nat} :
    (xs.filter p).take n = xs ↔ (∀ x ∈ xs, p x = true) ∧ xs.length ≤ n := by
  constructor
  · intro h
    have hlength := congrArg List.length h
    rw [List.length_take] at hlength
    have hfilter := List.length_filter_le p xs
    exact ⟨List.length_filter_eq_length_iff.mp (by omega), by omega⟩
  · rintro ⟨hall, hlength⟩
    rw [List.filter_eq_self.mpr hall, List.take_of_length_le hlength]

/-! ### Sound filters -/

/-- A name in which wildcards stand for whole levels only, so that it can be a part of a filter. A
wildcard for all levels that follow is none either, since something follows every part. -/
def IsFilterPart (name : String) : Prop :=
  ∀ level ∈ levels name.toList, isWild level = true → level = anyLevel

instance (name : String) : Decidable (IsFilterPart name) :=
  inferInstanceAs (Decidable (∀ level ∈ levels name.toList, isWild level = true → level = anyLevel))

theorem filterLevels_concat_iff (front : List (List Char)) :
    filterLevels (front ++ [anyLevel]) = true ↔
      ∀ level ∈ front, isWild level = true → level = anyLevel := by
  induction front with
  | nil => simp [filterLevels, anyLevel]
  | cons level rest ih =>
      have hcons : filterLevels (level :: rest ++ [anyLevel]) =
          ((!isWild level || level = anyLevel) && filterLevels (rest ++ [anyLevel])) := by
        cases rest <;> rfl
      rw [hcons, Bool.and_eq_true, ih, List.forall_mem_cons]
      cases isWild level <;> simp

/-- The filter for a module can be subscribed to when the names in it are parts of filters. The
other levels are fixed, and are plain but for the last one. -/
theorem isFilter_requestFilter_iff :
    isFilter (t.requestFilter module) = true ↔
      IsFilterPart t.controller ∧ IsFilterPart module := by
  have hne : t.requestFilter module ≠ "" := by
    intro h
    have hnil := congrArg String.toList h
    simp [Topics.requestFilter, joinLevels, root] at hnil
  have hlevels : levels (t.requestFilter module).toList = _ ++ [anyLevel] :=
    levels_joinLevels_concat (t.requestStem module) "+" (by decide)
  have hparts : (∀ level ∈ (t.requestStem module).flatMap fun part => levels part.toList,
      isWild level = true → level = anyLevel) ↔
        ∀ part ∈ t.requestStem module, IsFilterPart part := by
    rw [List.forall_mem_flatMap]
    rfl
  have hroot : IsFilterPart root := by decide
  have hrequest : IsFilterPart "request" := by decide
  have haction : IsFilterPart "action" := by decide
  unfold isFilter
  rw [hlevels, Bool.and_eq_true, filterLevels_concat_iff, hparts]
  simp [Topics.requestStem, hne, hroot, hrequest, haction]

example : isFilter "a/+/#" = true ∧ isFilter "a/b+/c" = false ∧ isFilter "#/c" = false := by
  decide

/-! ### A new connection -/

/-- **A new connection subscribes to the requests of as many modules as there is room for.** Behind
what waits already come the first subscriptions that are sound, until the queue is full. So all
modules are subscribed to exactly when the queue has room for them and their names and the
controller's can be parts of filters. -/
theorem subscriptions_queued_iff (r : Registry) (t : Topics) (o : Outbox) :
    connected r t o =
      o ++ ((subscriptions r t).filter Asked.isSound).take (capacity - o.length) ∧
    (connected r t o = o ++ subscriptions r t ↔
      (∀ module ∈ r.names, IsFilterPart t.controller ∧ IsFilterPart module) ∧
        r.length ≤ capacity - o.length) := by
  have hconnected : connected r t o =
      o ++ ((subscriptions r t).filter Asked.isSound).take (capacity - o.length) :=
    foldl_ask (subscriptions r t) o
  refine ⟨hconnected, ?_⟩
  have hsound : (∀ a ∈ subscriptions r t, a.isSound = true) ↔
      ∀ module ∈ r.names, IsFilterPart t.controller ∧ IsFilterPart module := by
    unfold subscriptions
    rw [List.forall_mem_map]
    exact forall₂_congr fun module _ => isFilter_requestFilter_iff
  have hlength : (subscriptions r t).length = r.length := by
    simp [subscriptions, Registry.names]
  rw [hconnected, List.append_cancel_left_eq, take_filter_eq_self_iff, hsound, hlength]

/-- The publication of a notification that waits for the connection. -/
def waiting : Asked :=
  announcement ⟨"ctl"⟩ (.notification "dns" "update_settings" none)

/-- With 63 notifications in the queue there is room for the first of two subscriptions only. And
for a controller that no filter can name, there is no subscription at all. -/
theorem subscriptions_lost :
    connected [Modules.Dns.module, Modules.Echo.module] ⟨"ctl"⟩ (List.replicate 63 waiting) =
      List.replicate 63 waiting ++ [.subscribe "cfgbus/ctl/request/dns/action/+" .atLeastOnce] ∧
    connected [Modules.Dns.module, Modules.Echo.module] ⟨"a#b"⟩ [] = [] := by
  decide +kernel

end Switchyard.PubSub
