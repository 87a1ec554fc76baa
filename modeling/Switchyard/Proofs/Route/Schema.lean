import Switchyard.Proofs.Route.Check

/-!
# Switchyard.Proofs.Route.Schema

**The check of an envelope keeps its schema, but for the error records**
(`accepted_iff_schema_apart_from_errors`). `Schema` says what an envelope is: of which members,
each of which type, and not with a payload and error records at once (`ErrorsKept`). The check goes
through the members one after the other and passes over `errors`. So it accepts an object exactly
when the object *without* that member keeps the schema. Whatever stands there goes unseen: something
that is no list of records, or a list beside a payload (`errors_unchecked`).

`WellFormed` has the rules that the check knows. That they are the rules of `Schema` for the members
without `errors` (`wellFormed_iff_schema`), and that the schema adds to them nothing but what it
says of `errors` (`schema_iff_wellFormed`), gives both halves of the result.
-/

namespace Switchyard

theorem Json.lookup?_filter_ne {key other : String} (h : key ≠ other) (members : Json.Members) :
    lookup? key (members.filter (·.1 ≠ other)) = lookup? key members := by
  unfold lookup?
  rw [List.find?_filter]
  congr 2
  funext m
  by_cases hm : m.1 = key
  · simp [hm, h]
  · simp [hm]

theorem Json.lookup?_filter_self (key : String) (members : Json.Members) :
    lookup? key (members.filter (·.1 ≠ key)) = none := by
  unfold lookup?
  rw [Option.map_eq_none_iff, List.find?_eq_none]
  intro m hm
  simpa using (List.mem_filter.mp hm).2

namespace Route

/-! ### The schema -/

/-- An error record: an object that says in words what went wrong, and what the details are. -/
def IsRecord (j : Json) : Prop :=
  ∃ members description stacktrace, j = .object members ∧
    Json.lookup? "description" members = some (.string description) ∧
    Json.lookup? "stacktrace" members = some (.string stacktrace)

/-- What the schema says of error records: if there are any, they stand in a list and in place of a
payload. -/
structure ErrorsKept (members : Json.Members) : Prop where
  errors : ∀ es, Json.lookup? "errors" members = some es →
    ∃ items, es = .array items ∧ ∀ r ∈ items, IsRecord r
  exclusive : Json.lookup? "data" members = none ∨ Json.lookup? "errors" members = none

/-- The members of an envelope: who is asked for what, which kind of envelope it is, and a payload
or error records. -/
structure Schema (members : Json.Members) : Prop extends ErrorsKept members where
  keys : ∀ member ∈ members, member.1 ∈ ["module", "action", "kind", "data", "errors"]
  module : ∃ s, Json.lookup? "module" members = some (.string s)
  action : ∃ s, Json.lookup? "action" members = some (.string s)
  kind : ∃ k ∈ ["request", "reply", "notification"],
    Json.lookup? "kind" members = some (.string k)
  data : ∀ d, Json.lookup? "data" members = some d → ∃ fields, d = .object fields

theorem isObject_iff {j : Json} : j.isObject = true ↔ ∃ fields, j = .object fields := by
  cases j <;> simp [Json.isObject]

/-! ### The check -/

/-- The members without their error records. -/
def withoutErrors (members : Json.Members) : Json.Members :=
  members.filter (·.1 ≠ "errors")

theorem keys_withoutErrors_iff {members : Json.Members} :
    (∀ member ∈ withoutErrors members, member.1 ∈ envelopeKeys) ↔
      ∀ member ∈ members, member.1 ∈ envelopeKeys := by
  constructor
  · intro h member hmember
    by_cases herrors : member.1 = "errors"
    · rw [herrors]
      decide
    · exact h member (List.mem_filter.mpr ⟨hmember, by simpa using herrors⟩)
  · exact fun h member hmember => h member (List.mem_filter.mp hmember).1

/-- The rules that the check knows are those of the schema for the other members. Taking `errors`
away changes no look-up of another key and leaves nothing for the rules about error records to speak
of. -/
theorem wellFormed_iff_schema {members : Json.Members} :
    WellFormed members ↔ Schema (withoutErrors members) := by
  have hlookup (key : String) (h : key ≠ "errors") :
      Json.lookup? key (withoutErrors members) = Json.lookup? key members :=
    Json.lookup?_filter_ne h members
  have hmodule := hlookup "module" (by decide)
  have haction := hlookup "action" (by decide)
  have hkind := hlookup "kind" (by decide)
  have hdata := hlookup "data" (by decide)
  have herrors : Json.lookup? "errors" (withoutErrors members) = none :=
    Json.lookup?_filter_self "errors" members
  constructor
  · intro h
    have hkept : ErrorsKept (withoutErrors members) :=
      ⟨fun es hes => absurd (herrors.symm.trans hes) nofun, .inr herrors⟩
    refine ⟨hkept, keys_withoutErrors_iff.mpr h.keys, hmodule ▸ h.module, haction ▸ h.action,
      hkind ▸ h.kind, ?_⟩
    exact fun d hd => isObject_iff.mp (h.data d (hdata ▸ hd))
  · intro h
    refine ⟨keys_withoutErrors_iff.mp h.keys, hmodule ▸ h.module, haction ▸ h.action,
      hkind ▸ h.kind, ?_⟩
    exact fun d hd => isObject_iff.mpr (h.data d (hdata.trans hd))

/-- What the schema says beyond those rules is what it says of the error records. -/
theorem schema_iff_wellFormed {members : Json.Members} :
    Schema members ↔ WellFormed members ∧ ErrorsKept members := by
  constructor
  · intro h
    exact ⟨⟨h.keys, h.module, h.action, h.kind, fun d hd => isObject_iff.mpr (h.data d hd)⟩,
      h.toErrorsKept⟩
  · rintro ⟨h, hkept⟩
    exact ⟨hkept, h.keys, h.module, h.action, h.kind, fun d hd => isObject_iff.mp (h.data d hd)⟩

/-- **The check keeps the schema apart from the error records.** It accepts the objects that keep
the schema without them. What keeps the schema as a whole is accepted, and of what is accepted just
that whose error records are sound. -/
theorem accepted_iff_schema_apart_from_errors (j : Json) :
    (checkEnvelope j = .ok () ↔
      ∃ members, j = .object members ∧ Schema (withoutErrors members)) ∧
    ((∃ members, j = .object members ∧ Schema members) ↔
      checkEnvelope j = .ok () ∧ ∃ members, j = .object members ∧ ErrorsKept members) := by
  constructor
  · rw [checkEnvelope_eq_ok_iff]
    -- The check accepts what is well-formed; the rules are those of the schema without the records.
    simp only [wellFormed_iff_schema]
  · constructor
    · rintro ⟨members, rfl, h⟩
      obtain ⟨hwell, hkept⟩ := schema_iff_wellFormed.mp h
      exact ⟨checkEnvelope_of_wellFormed hwell, members, rfl, hkept⟩
    · rintro ⟨haccepted, members, rfl, hkept⟩
      obtain ⟨_, hmembers, hwell⟩ := checkEnvelope_eq_ok_iff.mp haccepted
      cases hmembers
      exact ⟨members, rfl, schema_iff_wellFormed.mpr ⟨hwell, hkept⟩⟩

/-- Error records that are none, and error records beside a payload, go unseen. -/
theorem errors_unchecked :
    let numbered : Json.Members := [("action", .string "a"), ("errors", .nat 5),
      ("kind", .string "reply"), ("module", .string "m")]
    let doubled : Json.Members := [("action", .string "a"), ("data", .object []),
      ("errors", .array []), ("kind", .string "reply"), ("module", .string "m")]
    (checkEnvelope (.object numbered) = .ok () ∧ ¬Schema numbered) ∧
      (checkEnvelope (.object doubled) = .ok () ∧ ¬Schema doubled) := by
  intro numbered doubled
  refine ⟨⟨rfl, fun h => ?_⟩, ⟨rfl, fun h => ?_⟩⟩
  · obtain ⟨items, hitems, -⟩ := h.errors (.nat 5) rfl
    cases hitems
  · rcases h.exclusive with hdata | herrors
    · cases hdata
    · cases herrors

end Route
end Switchyard
