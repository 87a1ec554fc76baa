import Mathlib
import Switchyard.Call.Handle
import Switchyard.Modules.Dns
import Switchyard.Modules.Echo
import Switchyard.Proofs.Call.Assembler

/-!
# Switchyard.Proofs.Call.Handle

**A payload in chunks is the payload.** A submission (`Submits`) is a run of calls that carry the
chunks of a text, all of one id and only the last of them marked so. Nothing comes of a call before
the last one (`handleCall_of_more`), and the last one dispatches the object that the whole text
spells (`handleCall_of_last`). A plain call with that object dispatches the same request
(`handleCall_of_whole`), unless the object is empty: an empty payload of a plain call counts as
absent, while the empty object that chunks spell is a payload (`submission_differs`).

What an assembler holds is described by one property of one id, `Gathers`: the id is not used up,
and these are its chunks so far. It is all that a submission needs to know of the calls before and
between its own. `handleAll_of_submits` is by induction on the submission, with the text gathered so
far arbitrary.
-/

namespace Switchyard.Call

open Route

variable {r : Registry} {a : Assembler} {module action id text chunk : String}
variable {params : Json.Members} {p : Params}

/-! ### Parameters -/

/-- Parameters are read back from their members; a payload of `null` is none, which is why it is
excluded. -/
theorem Params.value_members (hdata : p.data ≠ some .null) :
    Params.decoder.value (.object p.members) = .ok p := by
  obtain ⟨data, last, multipart, id, chunk⟩ := p
  cases data with
  | none => cases id <;> cases chunk <;> rfl
  | some d =>
      cases d with
      | null => exact absurd rfl hdata
      | _ => cases id <;> cases chunk <;> rfl

/-- The parameters carry a chunk of an id; a chunk that is left out is empty. Other parameters may
be there as well and are not looked at. -/
def Carries (id chunk : String) (last : Bool) (params : Json.Members) : Prop :=
  ∃ p, Params.decoder.value (.object params) = .ok p ∧
    p.multipart = true ∧ p.requestId = some id ∧ p.chunk.getD "" = chunk ∧ p.last = last

/-- The parameters carry a whole payload. -/
def CarriesWhole (data : Json) (params : Json.Members) : Prop :=
  ∃ p, Params.decoder.value (.object params) = .ok p ∧ p.multipart = false ∧ p.data = some data

/-- The parameters carry no chunk, and this payload if there is one. A payload that is `null` counts
as none. -/
def CarriesPlain (data : Option Json) (params : Json.Members) : Prop :=
  ∃ p, Params.decoder.value (.object params) = .ok p ∧ p.multipart = false ∧ p.data = data

/-- Parameters with nothing but a chunk. -/
def chunkParams (id chunk : String) (last : Bool) : Json.Members :=
  Params.members ⟨none, last, true, some id, some chunk⟩

/-- Parameters with nothing but a payload. -/
def wholeParams (members : Json.Members) : Json.Members :=
  Params.members ⟨some (.object members), false, false, none, none⟩

theorem carries_chunkParams (id chunk : String) (last : Bool) :
    Carries id chunk last (chunkParams id chunk last) :=
  ⟨_, Params.value_members (by simp), rfl, rfl, rfl, rfl⟩

/-- The members of a call with nothing but a payload, or with nothing at all. -/
theorem carriesPlain_members {data : Option Json} (hdata : data ≠ some .null) :
    CarriesPlain data (data.map fun d => ("data", d)).toList := by
  refine ⟨⟨data, false, false, none, none⟩, ?_, rfl, rfl⟩
  cases data with
  | none => rfl
  | some d =>
      cases d with
      | null => exact absurd rfl hdata
      | _ => rfl

theorem carriesWhole_wholeParams (members : Json.Members) :
    CarriesWhole (.object members) (wholeParams members) :=
  ⟨_, Params.value_members (by simp), rfl, rfl⟩

/-! ### One call -/

/-- The id is not used up, and its chunks so far are those of a text. The text is empty for an id of
which no chunk has come. -/
structure Gathers (a : Assembler) (id text : String) : Prop where
  unretired : id ∉ a.retired
  text : a.text id = text

/-- No chunk of the id has come. -/
def Assembler.Unused (a : Assembler) (id : String) : Prop :=
  id ∉ a.retired ∧ id ∉ a.live.map (·.1)

/-- There is no text of an id that is not live. -/
theorem Assembler.text_of_not_mem (h : id ∉ a.live.map (·.1)) : a.text id = "" := by
  have hnone : a.live.find? (·.1 = id) = none := by
    rw [List.find?_eq_none]
    intro entry hentry heq
    exact h (List.mem_map.mpr ⟨entry, hentry, by simpa using heq⟩)
  unfold Assembler.text
  rw [hnone]
  rfl

theorem gathers_of_unused (h : a.Unused id) : Gathers a id "" :=
  ⟨h.1, Assembler.text_of_not_mem h.2⟩

/-- A call with a chunk is what the assembler makes of it: it waits for more, fails, or dispatches
what was gathered. -/
theorem handleCall_of_carries {last : Bool} (h : Carries id chunk last params) :
    handleCall r a module action params =
      match a.feed (some id) chunk last with
      | (.pending, a) => ⟨none, [], r, a, 0⟩
      | (.failed, a) => ⟨some (.errorReply module action ⟨multipartFailure, ""⟩), [], r, a, 0⟩
      | (.complete data, a) => dispatchCall r a module action (some data) := by
  obtain ⟨p, hp, hmulti, hid, hchunk, hlast⟩ := h
  have hfeed : a.feed p.requestId (p.chunk.getD "") p.last = a.feed (some id) chunk last := by
    rw [hid, hchunk, hlast]
  unfold handleCall
  rw [hp]
  exact (if_pos hmulti).trans (hfeed ▸ rfl)

/-- Before the last chunk there is no reply, and nothing happens but that the chunk is kept behind
those that came before it. -/
theorem handleCall_of_more (r : Registry) (module action : String) (hid : id ≠ "")
    (ha : Gathers a id text) (h : Carries id chunk false params) :
    ∃ a', handleCall r a module action params = ⟨none, [], r, a', 0⟩ ∧
      Gathers a' id (text ++ chunk) := by
  have hfeed := Assembler.take_more (c := ⟨some id, chunk, false⟩) rfl hid ha.unretired rfl
  rw [ha.text] at hfeed
  refine ⟨⟨(id, text ++ chunk) :: a.others id, a.retired⟩, ?_, ha.unretired,
    by simp [Assembler.text]⟩
  rw [handleCall_of_carries h, show a.feed (some id) chunk false = _ from hfeed]

/-- The last chunk dispatches the object that all chunks spell. The assembler that is left does not
matter for the dispatch. -/
theorem handleCall_of_last {members : Json.Members} (r : Registry) (module action : String)
    (hid : id ≠ "") (ha : Gathers a id text) (h : Carries id chunk true params)
    (htext : Json.parse? (Utf8.encode (text ++ chunk)) = some (.object members)) :
    ∃ a', handleCall r a module action params =
      dispatchCall r a' module action (some (.object members)) := by
  have hfeed := Assembler.take_last (c := ⟨some id, chunk, true⟩) rfl hid ha.unretired rfl
  rw [ha.text, Assembler.conclude_of_object htext] at hfeed
  refine ⟨⟨a.others id, id :: a.retired⟩, ?_⟩
  rw [handleCall_of_carries h, show a.feed (some id) chunk true = _ from hfeed]

/-- A plain call dispatches what it carries, unless that is an empty payload. -/
theorem handleCall_of_plain {data : Option Json} (h : CarriesPlain data params)
    (hdata : data ≠ some (.object [])) :
    handleCall r a module action params = dispatchCall r a module action data := by
  obtain ⟨p, hp, hmulti, hd⟩ := h
  have hpayload : p.payload = data := by
    unfold Params.payload
    rw [hd]
    split
    · exact absurd rfl hdata
    · rfl
  unfold handleCall
  rw [hp]
  dsimp only
  rw [hmulti, if_neg Bool.false_ne_true, hpayload]

/-- A plain call dispatches its payload, unless that is empty. -/
theorem handleCall_of_whole {data : Json} (h : CarriesWhole data params)
    (hdata : data ≠ .object []) :
    handleCall r a module action params = dispatchCall r a module action (some data) :=
  handleCall_of_plain h (by simpa using hdata)

/-! ### Submissions -/

/-- Calls that carry these chunks of an id; the last chunk, and no other, is marked so. -/
inductive Submits (id : String) : (chunks : List String) → (calls : List Json.Members) → Prop where
  | last {chunk : String} {params : Json.Members} (h : Carries id chunk true params) :
      Submits id [chunk] [params]
  | more {chunk : String} {chunks : List String} {params : Json.Members}
      {calls : List Json.Members} (h : Carries id chunk false params)
      (rest : Submits id chunks calls) : Submits id (chunk :: chunks) (params :: calls)

/-- Calls of one action, one after another, and what became of each. -/
def handleAll (r : Registry) (a : Assembler) (module action : String) :
    List Json.Members → List Handled
  | [] => []
  | params :: rest =>
    let h := handleCall r a module action params
    h :: handleAll h.registry h.assembler module action rest

/-- No reply, nothing sent, and no module moved. It is what a caller sees of a chunk that is kept
for later. -/
def Handled.Silent (h : Handled) (r : Registry) : Prop :=
  h.reply = none ∧ h.notices = [] ∧ h.registry = r ∧ h.duration = 0

/-- All that came of the call is what came of this dispatch: the reply, the notices, and what its
handler left behind. -/
def Handled.Performs (h : Handled) (d : Dispatched) : Prop :=
  h.reply = some d.reply ∧ h.notices = d.notices ∧ h.registry = d.registry ∧
    h.duration = d.duration

theorem performs_dispatchCall (r : Registry) (a : Assembler) (module action : String)
    (data : Option Json) :
    (dispatchCall r a module action data).Performs
      (dispatch r (Envelope.request module action data).toJson) :=
  ⟨rfl, rfl, rfl, rfl⟩

/-- A submission that goes on from a text: silence, then the dispatch of what it all spells. By
induction on the submission. -/
theorem handleAll_of_submits {chunks : List String} {calls : List Json.Members}
    {members : Json.Members} (hid : id ≠ "") (ha : Gathers a id text)
    (h : Submits id chunks calls)
    (htext : Json.parse? (Utf8.encode (text ++ String.join chunks)) = some (.object members)) :
    ∃ waiting a', (∀ w ∈ waiting, w.Silent r) ∧
      handleAll r a module action calls =
        waiting ++ [dispatchCall r a' module action (some (.object members))] := by
  induction h generalizing a text with
  | last h =>
      rw [show String.join [_] = _ from String.empty_append] at htext
      obtain ⟨a', hcall⟩ := handleCall_of_last r module action hid ha h htext
      exact ⟨[], a', by simp, by simp [handleAll, hcall]⟩
  | @more chunk chunks params calls h _ ih =>
      obtain ⟨a', hcall, ha'⟩ := handleCall_of_more r module action hid ha h
      rw [String.join_cons, ← String.append_assoc] at htext
      obtain ⟨waiting, a'', hsilent, hall⟩ := ih ha' htext
      refine ⟨⟨none, [], r, a', 0⟩ :: waiting, a'', ?_, ?_⟩
      · intro w hw
        rcases List.mem_cons.mp hw with rfl | hw
        · exact ⟨rfl, rfl, rfl, rfl⟩
        · exact hsilent w hw
      · simp only [handleAll, hcall, hall, List.cons_append]

/-- **A payload in chunks is the payload.** Calls that carry the chunks of a text, under an id that
has not been used, get no reply before the last one. The last one dispatches the request with the
object that the text spells, and so does a plain call with that object, unless it is empty: both
give the same reply, from the same call of a handler, and the same notices. -/
theorem chunks_dispatch_whole (r : Registry) (a : Assembler) (module action id : String)
    (hid : id ≠ "") (hunused : a.Unused id) (chunks : List String) (calls : List Json.Members)
    (hsubmits : Submits id chunks calls) (members : Json.Members)
    (htext : Json.parse? (Utf8.encode (String.join chunks)) = some (.object members)) :
    (∃ waiting last, handleAll r a module action calls = waiting ++ [last] ∧
      (∀ w ∈ waiting, w.Silent r) ∧
      last.Performs (dispatch r (Envelope.request module action (some (.object members))).toJson)) ∧
    (members ≠ [] → ∀ b whole, CarriesWhole (.object members) whole →
      (handleCall r b module action whole).Performs
        (dispatch r (Envelope.request module action (some (.object members))).toJson)) := by
  constructor
  · have hgathers := gathers_of_unused hunused
    rw [← String.empty_append (s := String.join chunks)] at htext
    obtain ⟨waiting, a', hsilent, hall⟩ := handleAll_of_submits hid hgathers hsubmits htext
    exact ⟨waiting, _, hall, hsilent, performs_dispatchCall r a' module action _⟩
  · intro hmembers b whole hwhole
    rw [handleCall_of_whole hwhole (by simpa using hmembers)]
    exact performs_dispatchCall r b module action _

/-- A message for the echo module, cut inside a key. -/
theorem chunks_dispatch_whole_echo :
    (∃ waiting last,
      handleAll [Modules.Echo.module] .empty "echo" "echo"
        [chunkParams "r1" "\x7b\"request_" false, chunkParams "r1" "msg\": \"hi\"\x7d" true] =
        waiting ++ [last] ∧
      (∀ w ∈ waiting, w.Silent [Modules.Echo.module]) ∧
      last.Performs (dispatch [Modules.Echo.module] (Envelope.request "echo" "echo"
        (some (.object [("request_msg", .string "hi")]))).toJson)) ∧
    ([("request_msg", Json.string "hi")] ≠ [] →
      ∀ b whole, CarriesWhole (.object [("request_msg", .string "hi")]) whole →
        (handleCall [Modules.Echo.module] b "echo" "echo" whole).Performs
          (dispatch [Modules.Echo.module] (Envelope.request "echo" "echo"
            (some (.object [("request_msg", .string "hi")]))).toJson)) :=
  chunks_dispatch_whole [Modules.Echo.module] .empty "echo" "echo" "r1" (by decide)
    (by simp [Assembler.Unused, Assembler.empty]) ["\x7b\"request_", "msg\": \"hi\"\x7d"] _
    (.more (carries_chunkParams "r1" _ false) (.last (carries_chunkParams "r1" _ true))) _ (by cbv)

/-- Two texts that spell an object, under an id that has not been used, and whose submission fails
where the plain call with the object succeeds: the empty object for an action that takes no payload,
and any object under the empty id. -/
theorem submission_differs :
    (Json.parse? (Utf8.encode "\x7b\x7d") = some (.object []) ∧
      Assembler.Unused .empty "r1" ∧
      Submits "r1" ["\x7b\x7d"] [chunkParams "r1" "\x7b\x7d" true] ∧
      (handleAll [Modules.Dns.module] .empty "dns" "get_settings"
        [chunkParams "r1" "\x7b\x7d" true]).map (·.reply.map (·.isError)) = [some true] ∧
      CarriesWhole (.object []) (wholeParams []) ∧
      (handleCall [Modules.Dns.module] .empty "dns" "get_settings"
        (wholeParams [])).reply.map (·.isError) = some false) ∧
    (Json.parse? (Utf8.encode "\x7b\"request_msg\":1\x7d") =
        some (.object [("request_msg", .nat 1)]) ∧
      Assembler.Unused .empty "" ∧
      Submits "" ["\x7b\"request_msg\":1\x7d"] [chunkParams "" "\x7b\"request_msg\":1\x7d" true] ∧
      (handleAll [Modules.Echo.module] .empty "echo" "echo"
        [chunkParams "" "\x7b\"request_msg\":1\x7d" true]).map (·.reply.map (·.isError)) =
          [some true] ∧
      CarriesWhole (.object [("request_msg", .nat 1)]) (wholeParams [("request_msg", .nat 1)]) ∧
      (handleCall [Modules.Echo.module] .empty "echo" "echo"
        (wholeParams [("request_msg", .nat 1)])).reply.map (·.isError) = some false) := by
  constructor
  · exact ⟨by cbv, by simp [Assembler.Unused, Assembler.empty],
      .last (carries_chunkParams "r1" _ true), rfl, carriesWhole_wholeParams _, rfl⟩
  · exact ⟨by cbv, by simp [Assembler.Unused, Assembler.empty],
      .last (carries_chunkParams "" _ true), rfl, carriesWhole_wholeParams _, rfl⟩

end Switchyard.Call
