import Mathlib.Data.String.Basic
import Switchyard.Json.Basic

/-!
# Switchyard.Proofs.Json.Ordered

Values whose objects have their keys in order.

* Whether a value is ordered can be decided, and the members of an ordered value are ordered
  (`ordered_of_get?`).
* `sortMembers_of_sorted` — members that are in order stay as they are: a member whose key comes
  behind all others is put at the end (`insertMember_of_lt`), so sorting goes once through the list.

That the members are in order is a property of the whole value, each object in it included, and is
decided by going over the value as `Switchyard.Proofs.Json.Equality` does. Values that were read
have it, because the reader puts members in order.
-/

namespace Switchyard.Json

instance (members : Members) : Decidable (SortedKeys members) :=
  inferInstanceAs (Decidable (List.Pairwise _ _))

mutual

/-- Whether a value is ordered. -/
def decideOrdered : (j : Json) → Decidable j.Ordered
  | .array items => decideOrderedItems items
  | .object members =>
    have := decideOrderedMembers members
    inferInstanceAs (Decidable (SortedKeys members ∧ OrderedMembers members))
  | .null | .bool _ | .number _ | .string _ => isTrue trivial

/-- Whether every value of a list is ordered. -/
def decideOrderedItems : (items : List Json) → Decidable (OrderedItems items)
  | [] => isTrue trivial
  | j :: rest =>
    have := decideOrdered j
    have := decideOrderedItems rest
    inferInstanceAs (Decidable (Ordered j ∧ OrderedItems rest))

/-- Whether the value of every member is ordered. -/
def decideOrderedMembers : (members : Members) → Decidable (OrderedMembers members)
  | [] => isTrue trivial
  | (_, j) :: rest =>
    have := decideOrdered j
    have := decideOrderedMembers rest
    inferInstanceAs (Decidable (Ordered j ∧ OrderedMembers rest))

end

instance (j : Json) : Decidable j.Ordered := decideOrdered j

theorem ordered_of_lookup? {key : String} {members : Members} {j : Json}
    (h : OrderedMembers members) (hj : lookup? key members = some j) : j.Ordered := by
  induction members with
  | nil => cases hj
  | cons m rest ih =>
      obtain ⟨hm, hrest⟩ := h
      unfold lookup? at hj
      by_cases hkey : m.1 = key
      · rw [List.find?_cons_of_pos (by simpa using hkey)] at hj
        cases hj
        exact hm
      · rw [List.find?_cons_of_neg (by simpa using hkey)] at hj
        exact ih hrest hj

theorem ordered_of_get? {key : String} {e j : Json} (h : e.Ordered) (hj : e.get? key = some j) :
    j.Ordered := by
  cases e with
  | object members => exact ordered_of_lookup? h.2 hj
  | _ => cases hj

theorem insertMember_of_lt {key : String} (value : Json) {members : Members}
    (h : ∀ m ∈ members, m.1 < key) :
    insertMember key value members = members ++ [(key, value)] := by
  induction members with
  | nil => rfl
  | cons m rest ih =>
      obtain ⟨hm, hrest⟩ := List.forall_mem_cons.mp h
      rw [insertMember, if_neg (lt_asymm hm), if_neg (ne_of_gt hm), ih hrest, List.cons_append]

theorem foldl_insertMember (before : Members) {members : Members}
    (h : SortedKeys (before ++ members)) :
    members.foldl (fun o (k, v) => insertMember k v o) before = before ++ members := by
  induction members generalizing before with
  | nil => simp
  | cons m rest ih =>
      obtain ⟨key, value⟩ := m
      have hbefore : ∀ m ∈ before, m.1 < key := by
        intro m hm
        exact (List.pairwise_append.mp h).2.2 m hm (key, value) List.mem_cons_self
      have hnext : SortedKeys ((before ++ [(key, value)]) ++ rest) := by
        simpa [SortedKeys] using h
      rw [List.foldl_cons]
      dsimp only
      rw [insertMember_of_lt value hbefore, ih _ hnext, List.append_assoc, List.singleton_append]

theorem sortMembers_of_sorted {members : Members} (h : SortedKeys members) :
    sortMembers members = members :=
  foldl_insertMember [] h

end Switchyard.Json
