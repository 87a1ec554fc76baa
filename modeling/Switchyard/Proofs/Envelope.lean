import Switchyard.Envelope
import Switchyard.Proofs.Json.Decoder

/-!
# Switchyard.Proofs.Envelope

Two readers of an envelope's text. The envelope may be of any kind, with error records or without;
its payload is one that can be printed without loss (`Json.Legible`).

* **As a free value the text is read as the envelope's members**, in the order of their keys
  (`parse_octets`).
* **As an envelope it is read as the envelope** (`envelopes_read_back`), but that a payload of
  `null` is none. The reader is the decoder of a record (`Proofs.Json.Decoder`), and what there is
  to say is which member fills which field: `fills_record` for an error record, `fills_members` for
  the envelope around them.

The two readers are used in different places: a request is read as a free value first, since it may
be anything, and a reply by who knows that it is an envelope. Both readers go through the same text,
and the levels of nesting that they allow are counted down as they do (`readAs_members` with two
levels less than there are).
-/

namespace Switchyard

/-- The value is read back from its text, and from the text of an envelope around it. -/
structure Json.Legible (j : Json) : Prop where
  ordered : j.Ordered
  integral : j.Integral
  nesting_lt : j.nesting + 1 < Json.maxDepth

namespace Envelope

/-! ### Members -/

theorem readAs_record (r : ErrorRecord) :
    Json.ReadAs 1 (Json.object r.members).spelling (.object r.members) := by
  have hsorted : Json.SortedKeys r.members :=
    List.pairwise_pair.mpr (show "description" < "stacktrace" by decide)
  exact Json.readAs_spelling (.object r.members) ⟨hsorted, trivial, trivial, trivial⟩
    ⟨trivial, trivial, trivial⟩

/-- Every member of an envelope is read from its text, within the levels that are left inside of the
object. A payload may use all of these, the records use two. -/
theorem readAs_members {e : Envelope} (h : ∀ d ∈ e.data, d.Legible) :
    ∀ m ∈ e.members, Json.ReadAs (Json.maxDepth - 2) m.2.spelling m.2 := by
  have hstring (s : String) :
      Json.ReadAs (Json.maxDepth - 2) (Json.string s).spelling (.string s) :=
    (Json.readAs_string s).mono (Nat.zero_le _)
  unfold members
  simp only [List.forall_mem_append, List.forall_mem_cons]
  refine ⟨⟨⟨hstring _, hstring _, hstring _, nofun⟩, ?_⟩, ?_⟩
  · cases hdata : e.data with
    | none => exact nofun
    | some d =>
        obtain ⟨hordered, hintegral, hnesting⟩ := h d hdata
        exact List.forall_mem_singleton.mpr
          ((Json.readAs_spelling d hordered hintegral).mono (by omega))
  · cases e.errors with
    | none => exact nofun
    | some es =>
        refine List.forall_mem_singleton.mpr ((Json.readAs_array ?_).mono (show 2 ≤ _ by decide))
        exact List.forall_mem_map.mpr fun r _ => readAs_record r

theorem octets_eq_spelling (e : Envelope) : e.octets = (Json.object e.members).spelling :=
  Json.encode_render _

/-- The text of an envelope is read as its members. -/
theorem parse_octets {e : Envelope} (h : ∀ d ∈ e.data, d.Legible) :
    Json.parse e.octets = .ok (.ofMembers e.members) := by
  rw [octets_eq_spelling]
  exact Json.parse_of_readAs (Json.readAs_object (readAs_members h)) (by decide)

/-- What is read has the module, the action and the payload of the envelope. This is all that most
readers of it look at. -/
theorem get?_members (e : Envelope) :
    (Json.ofMembers e.members).get? "module" = some (.string e.module) ∧
      (Json.ofMembers e.members).get? "action" = some (.string e.action) ∧
      (Json.ofMembers e.members).get? "data" = e.data := by
  obtain ⟨module, action, kind, data, errors⟩ := e
  cases data with
  | none => cases errors <;> exact ⟨rfl, rfl, rfl⟩
  | some d => cases errors <;> exact ⟨rfl, rfl, rfl⟩

/-! ### As an envelope -/

open Json.Decoder

theorem fills_record (r : ErrorRecord) :
    ErrorRecord.shape.Fills 0 [] ErrorRecord.shape.start r.members r :=
  .member rfl rfl ((reads_string r.description).field ..)
    (.member rfl rfl ((reads_string r.stacktrace).field ..) (.done rfl))

/-- Error records as a list. -/
def records (es : List ErrorRecord) : Json :=
  .array (es.map fun r => .object r.members)

theorem integral_record (r : ErrorRecord) : (Json.object r.members).Integral :=
  ⟨trivial, trivial, trivial⟩

theorem integral_records (es : List ErrorRecord) : (records es).Integral := by
  unfold records
  induction es with
  | nil => trivial
  | cons r es ih => exact ⟨integral_record r, ih⟩

/-- Error records are read in their order, none of them or many. -/
theorem reads_records (es : List ErrorRecord) :
    (option (list ErrorRecord.decoder)).Reads 2 (records es).spelling (some es) := by
  refine reads_option (integral_records es) nofun (reads_list ?_)
  induction es with
  | nil => exact .nil
  | cons r es ih => exact .cons ⟨integral_record r, reads_record (fills_record r)⟩ ih

theorem pick_spelling (k : MessageKind) : pick MessageKind.spellings k.spelling = .ok k := by
  cases k with
  | _ => rfl

/-- What follows the three members that every envelope has: the payload and the records, each of
which may be missing. The four cases are told apart because a missing member is not written. -/
theorem fills_content {start : Envelope} {data : Option Json} {errors : Option (List ErrorRecord)}
    (h : ∀ d ∈ data, d.Legible) (hdata : start.data = none) (herrors : start.errors = none) :
    shape.Fills (Json.maxDepth - 2) ["kind", "action", "module"] start
      ((data.map fun d => ("data", d)).toList ++
        (errors.map fun es => ("errors", .array (es.map fun r => .object r.members))).toList)
      { start with data := data.bind unlessNull, errors := errors } := by
  obtain ⟨module, action, kind, _, _⟩ := start
  cases hdata
  cases herrors
  have hpayload {d : Json} (hd : d.Legible) :
      (option any).Reads (Json.maxDepth - 2) d.spelling (unlessNull d) :=
    (reads_option_any hd.ordered hd.integral).mono (by have := hd.nesting_lt; omega)
  have hlist (es : List ErrorRecord) :=
    (reads_records es).mono (show 2 ≤ Json.maxDepth - 2 by decide)
  cases data with
  | none =>
      cases errors with
      | none => exact .done rfl
      | some es => exact .member rfl rfl ((hlist es).field ..) (.done rfl)
  | some d =>
      have hd := (hpayload (h d rfl)).field "data" false fun d (e : Envelope) => { e with data := d }
      cases errors with
      | none => exact .member rfl rfl hd (.done rfl)
      | some es => exact .member rfl rfl hd (.member rfl rfl ((hlist es).field ..) (.done rfl))

/-- The members of an envelope fill one like it. -/
theorem fills_members {e : Envelope} (h : ∀ d ∈ e.data, d.Legible) :
    shape.Fills (Json.maxDepth - 2) [] shape.start e.members
      { e with data := e.data.bind unlessNull } :=
  have hstring (s : String) : Json.Decoder.string.Reads (Json.maxDepth - 2) _ s :=
    (reads_string s).mono (Nat.zero_le _)
  have hkind := (reads_choice (pick_spelling e.kind)).mono (Nat.zero_le (Json.maxDepth - 2))
  .member rfl rfl ((hstring e.module).field ..)
    (.member rfl rfl ((hstring e.action).field ..)
      (.member rfl rfl (hkind.field ..) (fills_content h rfl rfl)))

/-- **An envelope is read back from its text**, with its records in their order, and with an empty
list of them told from none. Only a payload of `null` is lost. -/
theorem envelopes_read_back {e : Envelope} (h : ∀ d ∈ e.data, d.Legible) :
    parse e.octets = .ok { e with data := e.data.bind unlessNull } := by
  rw [octets_eq_spelling]
  exact parse_of_reads (reads_record (fills_members h)) (by decide)

/-- With the largest number there is, a control character in the module's name, and no records in
their list. -/
theorem envelopes_read_back_largest :
    let data : Json := .object [("limit", .array [.nat 0xffffffffffffffff]), ("note", .string "é\"")]
    let e : Envelope := ⟨"dns\x01", "get_settings", .reply, some data, some []⟩
    (∀ d ∈ e.data, d.Legible) ∧ parse e.octets = .ok e := by
  intro data e
  have hlegible : ∀ d ∈ e.data, d.Legible := by
    intro d hd
    cases hd
    exact ⟨by decide, ⟨⟨trivial, trivial⟩, trivial, trivial⟩, by decide⟩
  exact ⟨hlegible, envelopes_read_back hlegible⟩

end Envelope
end Switchyard
