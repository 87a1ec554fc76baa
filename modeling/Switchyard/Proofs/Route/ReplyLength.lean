import Switchyard.Proofs.Envelope
import Switchyard.Proofs.Json.Budget
import Switchyard.Proofs.Route.Dispatch
import Switchyard.Proofs.Route.Schema

/-!
# Switchyard.Proofs.Route.ReplyLength

**How long a reply can be**, told from the request, from the names that are declared in the
registry, and from what the handler gives (`length_handled_le`); where no handler is called, from
the request and the names alone (`length_refused_le`).

* `Envelope.length_octets` — the length of an envelope's text.
* `texts_echoed_le` — what a reply repeats of a request, its module and its action, stands in the
  request and leaves room for the request's other members (`beside`).
* `ReportsWithin` — how long the report of a check can be: it names one key, or one kind, of what is
  checked, or a name that is declared. One lemma for each check.

A reply is made of what it repeats of the request and of one more part: the handler's answer, its
error, or the report of a check. So each bound is one on `width`, the number of bytes that a text
takes as it is spelled, and the lengths of the fixed parts are evaluated. The two main bounds go
through the stages of a dispatch, `length_refused_le` through those before the handler and
`length_handled_le` through those behind it.
-/

namespace Switchyard

open Json (width texts textsMembers)

/-! ### Envelopes -/

namespace Envelope

/-- What an envelope takes besides its module, its action, its payload and its records is known from
its kind: the names of its members, their quotation marks, and the brackets. -/
theorem length_octets (e : Envelope) :
    e.octets.length = width e.module + width e.action + width e.kind.spelling + 35 +
      ((e.data.map fun d => d.spelling.length + 8).getD 0) +
      ((e.errors.map fun es => (records es).spelling.length + 10).getD 0) := by
  obtain ⟨module, action, kind, data, errors⟩ := e
  have hmodule : width "module" = 6 := rfl
  have haction : width "action" = 6 := rfl
  have hkind : width "kind" = 4 := rfl
  have hdata : width "data" = 4 := rfl
  have herrors : width "errors" = 6 := rfl
  rw [octets_eq_spelling]
  unfold members records
  cases data <;> cases errors
  all_goals
    simp only [Option.map_none, Option.map_some, Option.toList_none, Option.toList_some,
      Option.getD_none, Option.getD_some, List.append_nil, List.cons_append, List.nil_append,
      Json.spelling, Json.spellingMembers, Json.length_quotedTail, List.length_cons,
      List.length_append, List.length_nil]
    omega

theorem length_records_singleton (x : ErrorRecord) :
    (records [x]).spelling.length = width x.description + width x.stacktrace + 36 := by
  have hdescription : width "description" = 11 := rfl
  have hstacktrace : width "stacktrace" = 10 := rfl
  unfold records ErrorRecord.members
  simp only [List.map_cons, List.map_nil, Json.spelling, Json.spellingItems, Json.spellingMembers,
    Json.length_quotedTail, List.length_cons, List.length_append, List.length_nil]
  omega

theorem length_request (module action : String) :
    (request module action none).octets.length = width module + width action + 42 := by
  have hkind : width MessageKind.request.spelling = 7 := rfl
  rw [length_octets]
  simp only [request, hkind, Option.map_none, Option.getD_none]

theorem length_reply (module action : String) (v : Json) :
    (reply module action v).octets.length =
      width module + width action + v.spelling.length + 48 := by
  have hkind : width MessageKind.reply.spelling = 5 := rfl
  rw [length_octets]
  simp only [reply, hkind, Option.map_none, Option.map_some, Option.getD_none, Option.getD_some]
  omega

theorem length_errorReply (module action : String) (x : ErrorRecord) :
    (errorReply module action x).octets.length =
      width module + width action + (width x.description + width x.stacktrace) + 86 := by
  have hkind : width MessageKind.reply.spelling = 5 := rfl
  rw [length_octets]
  simp only [errorReply, hkind, Option.map_none, Option.map_some, Option.getD_none,
    Option.getD_some, length_records_singleton]
  omega

end Envelope

/-! ### Members -/

namespace Json

variable {key other : String} {j : Json} {members : Members}

theorem textsMembers_filter_le (p : String × Json → Bool) (members : Members) :
    textsMembers (members.filter p) ≤ textsMembers members := by
  induction members with
  | nil => exact Nat.le_refl _
  | cons m rest ih =>
      rw [List.filter_cons]
      split
      · exact Nat.add_le_add_left ih _
      · exact Nat.le_trans ih (Nat.le_add_left _ _)

/-- The texts of a member and those of the members of other keys are together no more than all
texts. By induction on the members, up to the one that is found. -/
theorem texts_lookup?_add_le (h : lookup? key members = some j) :
    texts j + textsMembers (members.filter (·.1 ≠ key)) ≤ textsMembers members := by
  induction members with
  | nil => cases h
  | cons m rest ih =>
      obtain ⟨k, v⟩ := m
      unfold lookup? at h
      rw [List.find?_cons] at h
      by_cases hkey : k = key
      · simp only [hkey, decide_true, Option.map_some, Option.some.injEq] at h
        have hrest := textsMembers_filter_le (·.1 ≠ key) rest
        rw [List.filter_cons_of_neg (by simp [hkey]), textsMembers, h]
        omega
      · simp only [hkey, decide_false] at h
        have hrest := ih h
        rw [List.filter_cons_of_pos (by simp [hkey]), textsMembers, textsMembers]
        omega

theorem texts_le_of_lookup? (h : lookup? key members = some j) : texts j ≤ textsMembers members :=
  Nat.le_of_add_right_le (texts_lookup?_add_le h)

theorem width_key_le {m : String × Json} (h : m ∈ members) : width m.1 ≤ textsMembers members := by
  induction members with
  | nil => cases h
  | cons first rest ih =>
      rw [textsMembers]
      rcases List.mem_cons.mp h with rfl | hrest
      · omega
      · have := ih hrest
        omega

end Json

namespace Route

variable {r : Registry} {e : Json} {m : Module} {a : Action}

/-- The members of a request that its reply does not repeat. -/
def besideMembers (members : Json.Members) : Json.Members :=
  (members.filter (·.1 ≠ "module")).filter (·.1 ≠ "action")

/-- Bytes of the texts of a request that its reply does not repeat. -/
def beside (e : Json) : Nat :=
  match e.object? with
  | some members => textsMembers (besideMembers members)
  | none => 0

theorem width_echoed_le (key : String) (members : Json.Members) :
    width (echoed (.object members) key) + textsMembers (members.filter (·.1 ≠ key)) ≤
      textsMembers members := by
  have htext := textOf_echoed (.object members) key
  generalize echoed (.object members) key = s at htext ⊢
  cases htext with
  | present h => exact Json.texts_lookup?_add_le h
  | absent _ =>
      have hempty : width "" = 0 := rfl
      have hrest := Json.textsMembers_filter_le (·.1 ≠ key) members
      omega

/-- What a reply repeats of a request leaves room for the request's other members. -/
theorem texts_echoed_le (e : Json) :
    width (echoed e "module") + width (echoed e "action") + beside e ≤ texts e := by
  cases e with
  | object members =>
      have hmodule := width_echoed_le "module" members
      have haction := width_echoed_le "action" (members.filter (·.1 ≠ "module"))
      have hlookup : Json.lookup? "action" (members.filter (·.1 ≠ "module")) =
          Json.lookup? "action" members :=
        Json.lookup?_filter_ne (by decide) members
      have hsame : echoed (.object (members.filter (·.1 ≠ "module"))) "action" =
          echoed (.object members) "action" := by
        simp only [echoed, Json.get?, hlookup]
      rw [hsame] at haction
      simp only [beside, besideMembers, Json.object?, texts]
      omega
  | _ => exact Nat.zero_le _

theorem lookup?_besideMembers {key : String} (hmodule : key ≠ "module") (haction : key ≠ "action")
    (members : Json.Members) :
    Json.lookup? key (besideMembers members) = Json.lookup? key members := by
  unfold besideMembers
  rw [Json.lookup?_filter_ne haction, Json.lookup?_filter_ne hmodule]

theorem texts_data_le (e : Json) : ((e.get? "data").map texts).getD 0 ≤ beside e := by
  cases hdata : e.get? "data" with
  | none => exact Nat.zero_le _
  | some d =>
      cases e with
      | object members =>
          have hlookup : Json.lookup? "data" (besideMembers members) = some d := by
            rw [lookup?_besideMembers (by decide) (by decide)]
            exact hdata
          exact Json.texts_le_of_lookup? hlookup
      | _ => cases hdata

/-! ### Declared names -/

/-- Bytes of the longest of some names. -/
def longest (names : List String) : Nat :=
  (names.map width).foldr max 0

theorem width_le_longest {name : String} {names : List String} (h : name ∈ names) :
    width name ≤ longest names := by
  induction names with
  | nil => cases h
  | cons first rest ih =>
      show width name ≤ max (width first) (longest rest)
      rcases List.mem_cons.mp h with rfl | hrest
      · exact Nat.le_max_left _ _
      · exact Nat.le_trans (ih hrest) (Nat.le_max_right _ _)

/-- The names that a report about an action may show: its own, and those of the keys that a
payload or an answer must have. -/
def Action.shownNames (a : Action) : List String :=
  a.name :: (((a.request.map (·.required)).getD []) ++ a.reply.required)

/-- Bytes of the longest name that is declared in a registry, of actions and of keys. -/
def Registry.longestName (r : Registry) : Nat :=
  longest (r.flatMap fun m => m.actions.flatMap (·.shownNames))

theorem Registry.width_le_longestName {module action name : String}
    (h : r.resolve module action = some (m, a)) (hname : name ∈ a.shownNames) :
    width name ≤ r.longestName := by
  obtain ⟨hm, ha⟩ := resolve_eq_some_iff.mp h
  refine width_le_longest (List.mem_flatMap.mpr ⟨m, List.mem_of_find?_eq_some hm, ?_⟩)
  exact List.mem_flatMap.mpr ⟨a, List.mem_of_find?_eq_some ha, hname⟩

/-! ### Reports -/

/-- A check passes, or reports in so many bytes. -/
def ReportsWithin {α : Type} (budget : Nat) : Except Violation α → Prop
  | .ok _ => True
  | .error v => width v.message ≤ budget

namespace ReportsWithin

variable {α β : Type} {budget budget' : Nat} {x : Except Violation α}

theorem mono (h : ReportsWithin budget x) (hle : budget ≤ budget') : ReportsWithin budget' x := by
  cases x with
  | ok y => trivial
  | error v => exact Nat.le_trans h hle

theorem bind {f : α → Except Violation β} (h : ReportsWithin budget x)
    (hnext : ∀ y, x = .ok y → ReportsWithin budget (f y)) : ReportsWithin budget (x >>= f) := by
  cases x with
  | error v => exact h
  | ok y => exact hnext y rfl

/-- A report ends a check. -/
theorem throw_bind {v : Violation} {f : α → Except Violation β} (h : width v.message ≤ budget) :
    ReportsWithin budget (throw v >>= f) :=
  h

theorem of_eq_error {v : Violation} (h : ReportsWithin budget x) (hx : x = .error v) :
    width v.message ≤ budget := by
  subst hx
  exact h

end ReportsWithin

theorem reports_textMember (members : Json.Members) (key : String) :
    ReportsWithin (width key + 18) (textMember members key) := by
  unfold textMember
  split
  · trivial
  · have hwords : width ": " + width "must be a string" = 18 := rfl
    simp only [ReportsWithin, Violation.message, Json.width_append]
    omega
  · have hwords : width "$" + width ": " + width "missing key '" + width "'" = 17 := rfl
    simp only [ReportsWithin, Violation.message, Json.width_append]
    omega

/-- The report of this check shows a member's key or the kind, and neither is among the texts that
the reply repeats. So the two can be added up without counting a text twice. -/
theorem reports_checkEnvelope (e : Json) : ReportsWithin (beside e + 65) (checkEnvelope e) := by
  unfold checkEnvelope
  cases hobject : e.object? with
  | none =>
      have hwords : width "$: envelope must be an object" = 29 := rfl
      show width "$: envelope must be an object" ≤ _
      omega
  | some members =>
      have hbeside : beside e = textsMembers (besideMembers members) := by
        unfold beside
        rw [hobject]
      rw [hbeside]
      dsimp only
      cases hkey : members.find? (fun member => !envelopeKeys.contains member.1) with
      | some member =>
          -- The key is none of the envelope's, so it is not a key of what the reply repeats.
          have hunknown : member.1 ∉ envelopeKeys := by simpa using List.find?_some hkey
          have hother {key : String} (h : key ∈ envelopeKeys) : decide (member.1 ≠ key) = true :=
            decide_eq_true fun heq => hunknown (heq ▸ h)
          have hmember : member ∈ besideMembers members :=
            List.mem_filter.mpr ⟨List.mem_filter.mpr ⟨List.mem_of_find?_eq_some hkey,
              hother (by decide)⟩, hother (by decide)⟩
          have hwidth := Json.width_key_le hmember
          have hwords : width "$" + width ": " + width "unexpected key '" + width "'" = 20 := rfl
          refine ReportsWithin.throw_bind ?_
          simp only [Violation.message, Json.width_append]
          omega
      | none =>
          dsimp only
          have hname {key : String} (h : width key ≤ 6) :
              ReportsWithin (textsMembers (besideMembers members) + 65) (textMember members key) :=
            (reports_textMember members key).mono (by omega)
          refine (hname (by decide)).bind fun _ _ => ?_
          refine (hname (by decide)).bind fun _ _ => ?_
          refine (hname (by decide)).bind fun kind hkind => ?_
          split
          · have hlookup : Json.lookup? "kind" (besideMembers members) = some (.string kind) := by
              rw [lookup?_besideMembers (by decide) (by decide)]
              exact textMember_eq_ok_iff.mp hkind
            have hwidth : width kind ≤ _ := Json.texts_le_of_lookup? hlookup
            have hwords : width "kind" + width ": " + width "'" + width "' is not one of " +
                width (Text.quoteList kinds) = 65 := rfl
            refine ReportsWithin.throw_bind ?_
            simp only [Violation.message, Json.width_append]
            omega
          · split
            · split
              · have hwords : width "data: must be an object" = 23 := rfl
                show width "data: must be an object" ≤ _
                omega
              · trivial
            · trivial

theorem reports_checkShape (path : String) {shape : Shape} {n : Nat}
    (h : ∀ key ∈ shape.required, width key ≤ n) (data : Json) :
    ReportsWithin (width path + n + texts data + 19) (checkShape path shape data) := by
  unfold checkShape
  cases hobject : data.object? with
  | none =>
      have hwords : width ": " + width "must be an object" = 19 := rfl
      show width (path ++ ": " ++ "must be an object") ≤ _
      simp only [Json.width_append]
      omega
  | some members =>
      obtain rfl := Json.object?_eq_some_iff.mp hobject
      dsimp only
      cases hmissing : shape.required.find? (fun key => (Json.lookup? key members).isNone) with
      | some key =>
          have hwidth := h key (List.mem_of_find?_eq_some hmissing)
          have hwords : width ": " + width "missing key '" + width "'" = 16 := rfl
          refine ReportsWithin.throw_bind ?_
          simp only [Violation.message, Json.width_append]
          omega
      | none =>
          dsimp only
          cases hextra : members.find? (fun member => !shape.allows member.1) with
          | some member =>
              have hwidth := Json.width_key_le (List.mem_of_find?_eq_some hextra)
              have hwords : width ": " + width "unexpected key '" + width "'" = 19 := rfl
              show width (path ++ ": " ++ ("unexpected key '" ++ member.1 ++ "'")) ≤ _
              simp only [Json.width_append, texts]
              omega
          | none => trivial

/-- Of an action the report shows a declared name, of a payload one of its keys. So the bound is the
longest name and the texts of the payload, and the words around them. -/
theorem reports_checkRequest {n : Nat} (h : ∀ name ∈ a.shownNames, width name ≤ n)
    (data : Option Json) :
    ReportsWithin (n + (data.map texts).getD 0 + 29) (checkRequest a data) := by
  have hname : width a.name ≤ n := h a.name List.mem_cons_self
  have hreport {text : String} (htext : width text = 15) :
      width ("data" ++ ": " ++ ("action '" ++ a.name ++ text)) ≤ n + 29 := by
    have hwords : width "data" + width ": " + width "action '" = 14 := rfl
    simp only [Json.width_append]
    omega
  unfold checkRequest
  split
  · trivial
  · exact Nat.le_trans (hreport rfl) (by omega)
  · rename_i shape data hrequest
    have hkeys : ∀ key ∈ shape.required, width key ≤ n := by
      intro key hkey
      refine h key (List.mem_cons_of_mem _ (List.mem_append_left _ ?_))
      rw [hrequest]
      exact hkey
    have hpath : width "data" = 4 := rfl
    refine (reports_checkShape "data" hkeys data).mono ?_
    simp only [Option.map_some, Option.getD_some]
    omega
  · split
    · trivial
    · exact Nat.le_trans (hreport rfl) (by omega)

theorem reports_checkReply {n : Nat} (h : ∀ name ∈ a.shownNames, width name ≤ n) (v : Json) :
    ReportsWithin (n + texts v + 29) (checkReply a v) := by
  have hkeys : ∀ key ∈ a.reply.required, width key ≤ n := fun key hkey =>
    h key (List.mem_cons_of_mem _ (List.mem_append_right _ hkey))
  have hpath : width "reply.data" = 10 := rfl
  refine (reports_checkShape "reply.data" hkeys v).mono ?_
  omega

/-! ### Replies -/

/-- Bytes of what a handler gives, as it is spelled. -/
def Outcome.size : Outcome → Nat
  | .returned v => v.spelling.length
  | .failed x => width x.message + width (trace x.chain)
  | .crashed message trace => width message + width trace

/-- The stages before the handler report what is beside the texts that the reply repeats. There is
one case for each stage that can fail; those of the handler and behind it do not arise. -/
theorem exists_fails_of_refused (h : ∀ m a, ¬Accepted r e m a) :
    ∃ x, Fails r e x ∧
      width x.description + width x.stacktrace ≤ beside e + r.longestName + 81 := by
  have hincorrect : width incorrectInput = 16 := rfl
  rcases fails_or_answers r e with ⟨x, hfails⟩ | ⟨v, m, a, hacc, -, -⟩
  · refine ⟨x, hfails, ?_⟩
    cases hfails with
    | envelope hcheck =>
        have hreport := (reports_checkEnvelope e).of_eq_error hcheck
        dsimp only
        omega
    | kind henv hkind hk =>
        have hwords : width wrongKind + width "" = 46 := rfl
        dsimp only
        omega
    | route henv hkind hroute =>
        have hwords : width "request does not match any registered action" = 44 := rfl
        dsimp only
        omega
    | payload henv hkind hroute hcheck =>
        have hreport := (reports_checkRequest
          (fun name hname => Registry.width_le_longestName hroute hname) _).of_eq_error hcheck
        have hdata := texts_data_le e
        dsimp only
        omega
    | handler hacc _ => exact absurd hacc (h _ _)
    | crash hacc _ => exact absurd hacc (h _ _)
    | answer hacc _ _ => exact absurd hacc (h _ _)
  · exact absurd hacc (h m a)

/-- A request that reaches no handler is answered with a report, whose length the request and the
declared names bound. -/
theorem length_refused_le (h : ∀ m a, ¬Accepted r e m a) :
    (dispatch r e).reply.octets.length ≤ texts e + r.longestName + 167 := by
  obtain ⟨x, hfails, hx⟩ := exists_fails_of_refused h
  have hechoed := texts_echoed_le e
  rw [(dispatch_of_fails hfails).1, Envelope.length_errorReply]
  omega

/-- A request that reaches a handler is answered with what the handler gives, or with a report. The
handler's answer may be refused by the last check; then the report names a key of it, which is no
longer than the answer, or a key that is declared. -/
theorem length_handled_le (h : Accepted r e m a) :
    (dispatch r e).reply.octets.length ≤
      texts e + (m.handling a e).outcome.size + r.longestName + 131 := by
  have hechoed := texts_echoed_le e
  cases hout : (m.handling a e).outcome with
  | returned v =>
      have htexts := Json.texts_le_spelling v
      cases hreply : checkReply a v with
      | error violation =>
          have hreport := (reports_checkReply
            (fun name hname => Registry.width_le_longestName h.route hname) v).of_eq_error hreply
          have hincorrect : width incorrectInput = 16 := rfl
          rw [(dispatch_of_fails (.answer h hout hreply)).1, Envelope.length_errorReply]
          simp only [Outcome.size]
          omega
      | ok _ =>
          rw [dispatch_of_answers h hout hreply, Envelope.length_reply]
          simp only [Outcome.size]
          omega
  | failed x =>
      rw [(dispatch_of_fails (.handler h hout)).1, Envelope.length_errorReply]
      simp only [Outcome.size]
      omega
  | crashed message trace =>
      rw [(dispatch_of_fails (.crash h hout)).1, Envelope.length_errorReply]
      simp only [Outcome.size]
      omega

/-! ### Replies to bytes -/

variable {payload : Octets}

theorem length_reply_of_handled (hparse : Json.parse payload = .ok e) (h : Accepted r e m a) :
    (dispatchBytes r payload).reply.octets.length ≤
      payload.length + (m.handling a e).outcome.size + r.longestName + 256 := by
  have htexts := Json.texts_le_of_parse hparse
  have hlength := length_handled_le h
  rw [dispatchBytes_of_parse r hparse]
  omega

/-- No report is longer than this, if eight digits are enough for its places. Bytes that are no JSON
text are reported with the line and the column, so the bound on the request's length is one on their
digits. -/
theorem length_reply_of_refused (hsize : payload.length + 1 < 100000000)
    (h : ∀ e m a, Json.parse payload = .ok e → ¬Accepted r e m a) :
    (dispatchBytes r payload).reply.octets.length ≤ payload.length + r.longestName + 256 := by
  cases hparse : Json.parse payload with
  | ok e =>
      have htexts := Json.texts_le_of_parse hparse
      have hlength := length_refused_le fun m a => h e m a hparse
      rw [dispatchBytes_of_parse r hparse]
      omega
  | error f =>
      have hmessage := Json.width_message_of_parse hparse hsize
      have hwords : width "" = 0 ∧ width incorrectInput = 16 := ⟨rfl, rfl⟩
      unfold dispatchBytes
      rw [hparse]
      dsimp only
      rw [Envelope.length_errorReply]
      dsimp only
      omega

end Route
end Switchyard
