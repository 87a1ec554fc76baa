import Switchyard.Proofs.Json.Ordered
import Switchyard.Proofs.Route.Check
import Switchyard.Proofs.Text.Utf8

/-!
# Switchyard.Proofs.Route.Payload

**A payload is accepted exactly when its action describes it, and a key in a report is a true one**
(`accepted_iff_described`). Requests and replies are held against a shape in the same way.

* `Shape.Describes` — every required key is there, and no key that is not declared.
* `Shape.Refuses` — what a payload may be refused for. A report of a key tells the first required
  one that is missing; only where none is missing, it tells the least one that is not declared.
* `refuses_of_checkShape` — a report is one of these. That the first undeclared member has the least
  key, byte for byte, is due to the order in which objects keep their members.

What a report tells depends on the order of the tests: keys that are required are looked for first,
in the order in which the action declares them, and a member that is not declared is only seen when
none of them is missing.
-/

namespace Switchyard

namespace Json

/-- The keys of members, in their order. -/
def keys (members : Members) : List String :=
  members.map (·.1)

theorem lookup?_eq_none_iff {key : String} {members : Members} :
    lookup? key members = none ↔ key ∉ keys members := by
  have hnone : lookup? key members = none ↔ ∀ member ∈ members, member.1 ≠ key := by
    simp [lookup?, List.find?_eq_none]
  rw [hnone, keys, List.mem_map]
  constructor
  · rintro h ⟨member, hmember, hkey⟩
    exact h member hmember hkey
  · intro h member hmember hkey
    exact h ⟨member, hmember, hkey⟩

theorem exists_lookup?_iff {key : String} {members : Members} :
    (∃ j, lookup? key members = some j) ↔ key ∈ keys members := by
  rw [← Option.ne_none_iff_exists', ne_eq, lookup?_eq_none_iff, not_not]

end Json

namespace Route

open Json (keys)

/-! ### Shapes -/

namespace Shape

/-- A key that may be there. -/
def Declares (shape : Shape) (key : String) : Prop :=
  key ∈ shape.required ∨ key ∈ shape.optional

/-- The members have every required key and no undeclared one. -/
structure Describes (shape : Shape) (members : Json.Members) : Prop where
  required : ∀ key ∈ shape.required, key ∈ keys members
  declared : ∀ key ∈ keys members, shape.Declares key

/-- A required key that is missing, and the first such in the order of the declaration. -/
structure FirstMissing (shape : Shape) (members : Json.Members) (key : String) : Prop where
  missing : key ∉ keys members
  first : ∃ before after, shape.required = before ++ key :: after ∧
    ∀ other ∈ before, other ∈ keys members

/-- A key that is there and not declared, and the least such in the order of bytes. -/
structure LeastUndeclared (shape : Shape) (members : Json.Members) (key : String) : Prop where
  present : key ∈ keys members
  undeclared : ¬shape.Declares key
  least : ∀ other ∈ keys members, ¬shape.Declares other → other ≠ key →
    Utf8.encode key < Utf8.encode other

/-- What a payload, called `path` in reports, is refused for. -/
inductive Refuses (shape : Shape) (path : String) : Json → Violation → Prop where
  /-- It is no object. -/
  | noObject {j : Json} (h : ∀ members, j ≠ .object members) :
    Refuses shape path j ⟨path, "must be an object"⟩
  /-- A required key is missing. -/
  | missing {members : Json.Members} {key : String} (h : shape.FirstMissing members key) :
    Refuses shape path (.object members) ⟨path, "missing key '" ++ key ++ "'"⟩
  /-- No required key is missing, but another key is there. -/
  | unexpected {members : Json.Members} {key : String}
      (hrequired : ∀ other ∈ shape.required, other ∈ keys members)
      (h : shape.LeastUndeclared members key) :
    Refuses shape path (.object members) ⟨path, "unexpected key '" ++ key ++ "'"⟩

variable {shape : Shape} {members : Json.Members} {key : String}

theorem allows_iff : shape.allows key = true ↔ shape.Declares key := by
  simp [allows, Declares]

/-- What the shape takes, told through look-ups, is what it describes, told through the keys that
are there. -/
theorem takes_iff_describes : shape.Takes members ↔ shape.Describes members := by
  constructor
  · intro h
    refine ⟨fun key hkey => Json.exists_lookup?_iff.mp (h.required key hkey), fun key hkey => ?_⟩
    obtain ⟨member, hmember, rfl⟩ := List.mem_map.mp hkey
    exact allows_iff.mp (h.declared member hmember)
  · intro h
    refine ⟨fun key hkey => Json.exists_lookup?_iff.mpr (h.required key hkey), fun member hm => ?_⟩
    exact allows_iff.mpr (h.declared member.1 (List.mem_map_of_mem hm))

/-- The search for a missing key goes through the declaration from its front, so it finds the first
one: what stands before it in the declaration is there. -/
theorem firstMissing_of_find?
    (h : shape.required.find? (fun key => (Json.lookup? key members).isNone) = some key) :
    shape.FirstMissing members key := by
  obtain ⟨hkey, before, after, hsplit, hbefore⟩ := List.find?_eq_some_iff_append.mp h
  refine ⟨Json.lookup?_eq_none_iff.mp (Option.isNone_iff_eq_none.mp hkey), before, after, hsplit,
    fun other hother => ?_⟩
  apply Json.exists_lookup?_iff.mp
  simpa [Option.isSome_iff_exists] using hbefore other hother

/-- The search for an undeclared key goes through the members from their front. They stand in the
order of their keys, so what comes behind the one it finds has greater keys, and what comes before
it is declared; hence it is the least one. -/
theorem leastUndeclared_of_find? {j : Json} (hsorted : Json.SortedKeys members)
    (h : members.find? (fun member => !shape.allows member.1) = some (key, j)) :
    shape.LeastUndeclared members key := by
  have hmem : (key, j) ∈ members := List.mem_of_find?_eq_some h
  obtain ⟨hkey, before, after, rfl, hbefore⟩ := List.find?_eq_some_iff_append.mp h
  refine ⟨List.mem_map_of_mem hmem, ?_, ?_⟩
  · simpa [← allows_iff] using hkey
  · intro other hother hundeclared hne
    obtain ⟨member, hmember, rfl⟩ := List.mem_map.mp hother
    obtain ⟨-, hbehind, -⟩ := List.pairwise_append.mp hsorted
    rcases List.mem_append.mp hmember with hm | hm
    · -- What stands before it is declared.
      have hallowed : shape.allows member.1 = true := by simpa using hbefore member hm
      exact absurd (allows_iff.mp hallowed) hundeclared
    · rcases List.mem_cons.mp hm with rfl | hm
      · exact absurd rfl hne
      · exact Utf8.encode_lt_encode ((List.pairwise_cons.mp hbehind).1 member hm)

end Shape

/-- What `checkShape` reports is what the shape refuses the payload for. One case for each test, in
the order of the tests; that the keys are sorted is needed for the last one only. -/
theorem refuses_of_checkShape {path : String} {shape : Shape} {j : Json} {v : Violation}
    (hsorted : ∀ members, j = .object members → Json.SortedKeys members)
    (h : checkShape path shape j = .error v) : shape.Refuses path j v := by
  unfold checkShape at h
  cases hj : j.object? with
  | none =>
      rw [hj] at h
      cases h
      refine .noObject fun members hmembers => ?_
      rw [Json.object?_eq_some_iff.mpr hmembers] at hj
      cases hj
  | some members =>
      -- Missing keys are looked for first; only when there is none, undeclared ones are.
      obtain rfl := Json.object?_eq_some_iff.mp hj
      simp only [hj] at h
      cases hmissing : shape.required.find? (fun key => (Json.lookup? key members).isNone) with
      | some key =>
          simp only [hmissing] at h
          cases h
          exact .missing (Shape.firstMissing_of_find? hmissing)
      | none =>
          simp only [hmissing] at h
          have hrequired := find?_missing_eq_none_iff.mp hmissing
          cases hextra : members.find? (fun member => !shape.allows member.1) with
          | some member =>
              simp only [hextra] at h
              cases h
              exact .unexpected (fun key hkey => Json.exists_lookup?_iff.mp (hrequired key hkey))
                (Shape.leastUndeclared_of_find? (hsorted members rfl) hextra)
          | none =>
              simp only [hextra] at h
              cases h

/-! ### Actions -/

/-- The payload of a request is the one that its action asks for: none for an action that takes
none; else one that the shape describes, or none where the shape requires nothing. -/
def Action.Accepts (action : Action) (data : Option Json) : Prop :=
  (action.request = none ∧ data = none) ∨
    ∃ shape, action.request = some shape ∧
      ((data = none ∧ shape.required = []) ∨
        ∃ members, data = some (.object members) ∧ shape.Describes members)

/-- What the payload of a request is refused for. -/
inductive Action.Refuses (action : Action) : Option Json → Violation → Prop where
  /-- The action takes no payload, and there is one. -/
  | takesNone {j : Json} (h : action.request = none) :
    Refuses action (some j) ⟨"data", "action '" ++ action.name ++ "' takes no data"⟩
  /-- There is no payload, and the action requires a key. -/
  | needsOne {shape : Shape} (h : action.request = some shape) (hrequired : shape.required ≠ []) :
    Refuses action none ⟨"data", "action '" ++ action.name ++ "' requires data"⟩
  /-- The shape of the action refuses the payload. -/
  | payload {shape : Shape} {j : Json} {v : Violation} (h : action.request = some shape)
      (hrefused : shape.Refuses "data" j v) :
    Refuses action (some j) v

variable {action : Action} {data : Option Json}

theorem checkShape_eq_ok_iff_describes {path : String} {shape : Shape} {j : Json} :
    checkShape path shape j = .ok () ↔ ∃ members, j = .object members ∧ shape.Describes members := by
  rw [checkShape_eq_ok_iff]
  simp only [Shape.takes_iff_describes]

/-- A payload may be left out in two ways: the action takes none, or its shape requires no key. -/
theorem checkRequest_eq_ok_iff : checkRequest action data = .ok () ↔ action.Accepts data := by
  unfold checkRequest Action.Accepts
  cases hrequest : action.request with
  | none => cases data with
    | none => simp
    | some j => simp
  | some shape => cases data with
    | none => cases hrequired : shape.required with
      | nil => simp [hrequired]
      | cons key rest => simp [hrequired]
    | some j => simp [checkShape_eq_ok_iff_describes]

theorem refuses_of_checkRequest {v : Violation}
    (hsorted : ∀ members, data = some (.object members) → Json.SortedKeys members)
    (h : checkRequest action data = .error v) : action.Refuses data v := by
  unfold checkRequest at h
  cases hrequest : action.request with
  | none => cases data with
    | none => simp [hrequest] at h
    | some j =>
        simp only [hrequest, Except.error.injEq] at h
        subst h
        exact .takesNone hrequest
  | some shape => cases data with
    | none => cases hrequired : shape.required with
      | nil => simp [hrequest, hrequired] at h
      | cons key rest =>
          simp only [hrequest, hrequired, List.isEmpty_cons, Bool.false_eq_true, if_false,
            Except.error.injEq] at h
          subst h
          exact .needsOne hrequest (by simp [hrequired])
    | some j =>
        simp only [hrequest] at h
        refine .payload hrequest (refuses_of_checkShape (fun members hj => ?_) h)
        exact hsorted members (congrArg some hj)

/-- **A payload is accepted exactly when its action describes it, and a key in a report is a true
one.** Here the payload of a request is `data`, and the one of a reply is `answer`.

The hypotheses ask of a payload that is an object what every object has that was read or built:
members in the order of their keys. -/
theorem accepted_iff_described (action : Action) (data : Option Json) (answer : Json)
    (hdata : ∀ members, data = some (.object members) → Json.SortedKeys members)
    (hanswer : ∀ members, answer = .object members → Json.SortedKeys members) :
    (checkRequest action data = .ok () ↔ action.Accepts data) ∧
    (∀ v, checkRequest action data = .error v → action.Refuses data v) ∧
    (checkReply action answer = .ok () ↔
      ∃ members, answer = .object members ∧ action.reply.Describes members) ∧
    ∀ v, checkReply action answer = .error v → action.reply.Refuses "reply.data" answer v := by
  refine ⟨checkRequest_eq_ok_iff, fun v => refuses_of_checkRequest hdata, ?_, fun v => ?_⟩
  · exact checkShape_eq_ok_iff_describes
  · exact refuses_of_checkShape hanswer

/-- An action whose lists overlap and repeat a key. -/
def overlapping : Action :=
  ⟨"set", true, some ⟨["b", "a", "b"], ["a", "c"]⟩, ⟨["result", "at"], []⟩⟩

/-- A request has all it needs and two keys too many, of which the one with the smaller bytes is
told; its reply lacks two keys, of which the one that is declared first is told. -/
theorem accepted_iff_described_overlapping :
    let data : Json.Members := [("a", .null), ("b", .null), ("z", .null), ("é", .null)]
    Json.SortedKeys data ∧
      checkRequest overlapping (some (.object data)) = .error ⟨"data", "unexpected key 'z'"⟩ ∧
      overlapping.Refuses (some (.object data)) ⟨"data", "unexpected key 'z'"⟩ ∧
      checkReply overlapping (.object []) = .error ⟨"reply.data", "missing key 'result'"⟩ ∧
      overlapping.reply.Refuses "reply.data" (.object [])
        ⟨"reply.data", "missing key 'result'"⟩ := by
  intro data
  have hsorted : Json.SortedKeys data := by decide
  have hrequest : checkRequest overlapping (some (.object data)) =
      .error ⟨"data", "unexpected key 'z'"⟩ := by decide
  have hreply : checkReply overlapping (.object []) =
      .error ⟨"reply.data", "missing key 'result'"⟩ := by decide
  obtain ⟨-, hrefused, -, hlacking⟩ :=
    accepted_iff_described overlapping (some (.object data)) (.object [])
      (by rintro _ ⟨⟩; exact hsorted) (by rintro _ ⟨⟩; exact .nil)
  exact ⟨hsorted, hrequest, hrefused _ hrequest, hreply, hlacking _ hreply⟩

end Route
end Switchyard
