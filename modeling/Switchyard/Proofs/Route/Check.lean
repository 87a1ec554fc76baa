import Switchyard.Route.Action

/-!
# Switchyard.Proofs.Route.Check

What the checks of envelopes and payloads accept, rule by rule, without the order in which the rules
are tried and without the texts of their reports.

* `textMember_eq_ok_iff` — a member passes as a text exactly when it is one.
* `checkEnvelope_eq_ok_iff` — the rules of an envelope. In particular an accepted envelope has a
  kind that is spelled as one of the three kinds (`kind_of_checkEnvelope`).
* `checkShape_eq_ok_iff` — the rules of a shape.

The order of the rules decides only what is reported of a value that breaks several of them. Here
the rules are conditions side by side, and every accepted block is taken apart rule by rule from the
front (`bind_eq_ok_iff`); the reports are in `Switchyard.Proofs.Route.Payload` and
`Switchyard.Proofs.Route.Schema`.
-/

namespace Switchyard

theorem Json.object?_eq_some_iff {j : Json} {members : Json.Members} :
    j.object? = some members ↔ j = .object members := by
  cases j <;> simp [Json.object?]

namespace Route

/-! ### Checks as chains of rules

A check is a `do` block over `Except Violation`: a rule that is broken ends it. These two lemmas
take one rule off the front of an accepted block. -/

theorem bind_eq_ok_iff {α β : Type} {x : Except Violation α} {f : α → Except Violation β} {b : β} :
    x >>= f = .ok b ↔ ∃ a, x = .ok a ∧ f a = .ok b := by
  cases x with
  | error v => simp [bind, Except.bind]
  | ok a => simp [bind, Except.bind]

/-- A block that begins with a report accepts nothing. -/
theorem throw_bind_ne_ok {α β : Type} {v : Violation} {f : α → Except Violation β} {b : β} :
    (throw v >>= f : Except Violation β) ≠ .ok b := by
  intro h
  obtain ⟨a, ha, -⟩ := bind_eq_ok_iff.mp h
  cases ha

/-! ### Envelopes -/

theorem textMember_eq_ok_iff {members : Json.Members} {key s : String} :
    textMember members key = .ok s ↔ Json.lookup? key members = some (.string s) := by
  unfold textMember
  cases h : Json.lookup? key members with
  | none => simp
  | some j => cases j <;> simp

/-- The rules that `checkEnvelope` holds the members of an object against. There is none for
`errors`. -/
structure WellFormed (members : Json.Members) : Prop where
  keys : ∀ member ∈ members, member.1 ∈ envelopeKeys
  module : ∃ s, Json.lookup? "module" members = some (.string s)
  action : ∃ s, Json.lookup? "action" members = some (.string s)
  kind : ∃ k ∈ kinds, Json.lookup? "kind" members = some (.string k)
  data : ∀ d, Json.lookup? "data" members = some d → d.isObject = true

theorem find?_unexpected_eq_none_iff {members : Json.Members} :
    members.find? (fun member => !envelopeKeys.contains member.1) = none ↔
      ∀ member ∈ members, member.1 ∈ envelopeKeys := by
  rw [List.find?_eq_none]
  simp

theorem wellFormed_of_checkEnvelope {j : Json} (h : checkEnvelope j = .ok ()) :
    ∃ members, j = .object members ∧ WellFormed members := by
  unfold checkEnvelope at h
  cases hj : j.object? with
  | none =>
      rw [hj] at h
      cases h
  | some members =>
      refine ⟨members, Json.object?_eq_some_iff.mp hj, ?_⟩
      simp only [hj] at h
      cases hk : members.find? (fun member => !envelopeKeys.contains member.1) with
      | some member =>
          simp only [hk] at h
          exact absurd h throw_bind_ne_ok
      | none =>
          simp only [hk] at h
          -- From here on the block is a chain of rules; each one passed gives one field.
          obtain ⟨m, hm, h⟩ := bind_eq_ok_iff.mp h
          obtain ⟨a, ha, h⟩ := bind_eq_ok_iff.mp h
          obtain ⟨k, hkind, h⟩ := bind_eq_ok_iff.mp h
          by_cases hin : (!kinds.contains k) = true
          · rw [if_pos hin] at h
            exact absurd h throw_bind_ne_ok
          · rw [if_neg hin] at h
            refine ⟨find?_unexpected_eq_none_iff.mp hk, ⟨m, textMember_eq_ok_iff.mp hm⟩,
              ⟨a, textMember_eq_ok_iff.mp ha⟩,
              ⟨k, by simpa using hin, textMember_eq_ok_iff.mp hkind⟩, ?_⟩
            intro d hd
            simp only [hd] at h
            by_cases hobj : (!d.isObject) = true
            · rw [if_pos hobj] at h
              cases h
            · simpa using hobj

theorem checkEnvelope_of_wellFormed {members : Json.Members} (h : WellFormed members) :
    checkEnvelope (.object members) = .ok () := by
  obtain ⟨m, hm⟩ := h.module
  obtain ⟨a, ha⟩ := h.action
  obtain ⟨k, hin, hk⟩ := h.kind
  have hkeys := find?_unexpected_eq_none_iff.mpr h.keys
  have hknown : ¬(!kinds.contains k) = true := by simpa using hin
  unfold checkEnvelope
  simp only [Json.object?, hkeys]
  refine bind_eq_ok_iff.mpr ⟨m, textMember_eq_ok_iff.mpr hm, ?_⟩
  refine bind_eq_ok_iff.mpr ⟨a, textMember_eq_ok_iff.mpr ha, ?_⟩
  refine bind_eq_ok_iff.mpr ⟨k, textMember_eq_ok_iff.mpr hk, ?_⟩
  rw [if_neg hknown]
  cases hd : Json.lookup? "data" members with
  | none => rfl
  | some d =>
      have hobj : ¬(!d.isObject) = true := by simpa using h.data d hd
      simp only [if_neg hobj]
      rfl

/-- An envelope is accepted exactly when it is an object that keeps the rules. -/
theorem checkEnvelope_eq_ok_iff {j : Json} :
    checkEnvelope j = .ok () ↔ ∃ members, j = .object members ∧ WellFormed members := by
  constructor
  · exact wellFormed_of_checkEnvelope
  · rintro ⟨members, rfl, h⟩
    exact checkEnvelope_of_wellFormed h

/-- An accepted envelope has a kind. -/
theorem kind_of_checkEnvelope {j : Json} (h : checkEnvelope j = .ok ()) :
    ∃ k ∈ kinds, j.get? "kind" = some (.string k) := by
  obtain ⟨members, rfl, hw⟩ := checkEnvelope_eq_ok_iff.mp h
  exact hw.kind

/-! ### Shapes -/

/-- The members have every key that a shape requires and no key that it does not declare. What
stands under a key is not looked at. -/
structure Shape.Takes (shape : Shape) (members : Json.Members) : Prop where
  required : ∀ key ∈ shape.required, ∃ j, Json.lookup? key members = some j
  declared : ∀ member ∈ members, shape.allows member.1 = true

theorem find?_missing_eq_none_iff {shape : Shape} {members : Json.Members} :
    shape.required.find? (fun key => (Json.lookup? key members).isNone) = none ↔
      ∀ key ∈ shape.required, ∃ j, Json.lookup? key members = some j := by
  rw [List.find?_eq_none]
  simp [Option.ne_none_iff_exists']

theorem find?_undeclared_eq_none_iff {shape : Shape} {members : Json.Members} :
    members.find? (fun member => !shape.allows member.1) = none ↔
      ∀ member ∈ members, shape.allows member.1 = true := by
  rw [List.find?_eq_none]
  simp

/-- A payload is accepted exactly when it is an object that the shape takes. -/
theorem checkShape_eq_ok_iff {path : String} {shape : Shape} {j : Json} :
    checkShape path shape j = .ok () ↔ ∃ members, j = .object members ∧ shape.Takes members := by
  constructor
  · intro h
    unfold checkShape at h
    cases hj : j.object? with
    | none =>
        rw [hj] at h
        cases h
    | some members =>
        refine ⟨members, Json.object?_eq_some_iff.mp hj, ?_⟩
        simp only [hj] at h
        cases hmissing : shape.required.find? (fun key => (Json.lookup? key members).isNone) with
        | some key =>
            simp only [hmissing] at h
            cases h
        | none =>
            simp only [hmissing] at h
            cases hextra : members.find? (fun member => !shape.allows member.1) with
            | some member =>
                simp only [hextra] at h
                cases h
            | none =>
                exact ⟨find?_missing_eq_none_iff.mp hmissing,
                  find?_undeclared_eq_none_iff.mp hextra⟩
  · rintro ⟨members, rfl, h⟩
    have hmissing := find?_missing_eq_none_iff.mpr h.required
    have hextra := find?_undeclared_eq_none_iff.mpr h.declared
    unfold checkShape
    simp only [Json.object?, hmissing, hextra]
    rfl

end Route
end Switchyard
