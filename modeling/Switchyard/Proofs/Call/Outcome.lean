import Switchyard.Call.Handle
import Switchyard.Proofs.Call.Assembler
import Switchyard.Proofs.Route.Dispatch

/-!
# Switchyard.Proofs.Call.Outcome

What any call does, whatever its parameters hold: it goes to the module that it names and leaves
all others as they are (`find?_handleCall`), and it has a reply unless it brings a chunk of a
payload that is not complete (`reply_handleCall_eq_none_iff`).

Both statements hold for parameters of any kind, chunks among them, and for parameters that cannot
be read. So a worker that answers calls can use them without knowing what it was sent. The first
comes down to a dispatch, in which only the module that the request names is handled; the second to
the assembler, which gives no answer in just one case (`Assembler.feed_pending_iff`).
-/

namespace Switchyard.Call

open Route

variable {r : Registry} {a : Assembler} {module action : String} {params : Json.Members}

/-! ### The module of a call -/

/-- A request names the module that it was made for. -/
theorem echoed_module (module action : String) (data : Option Json) :
    echoed (Envelope.request module action data).toJson "module" = module := by
  cases data <;> rfl

theorem find?_dispatchCall {other : String} (h : other ≠ module) (data : Option Json) :
    (dispatchCall r a module action data).registry.find? other = r.find? other := by
  let e := (Envelope.request module action data).toJson
  by_cases hacc : ∃ m act, Accepted r e m act
  · obtain ⟨m, act, hacc⟩ := hacc
    have hname : (m.handled act e).name = module :=
      hacc.module_name.trans (echoed_module module action data)
    have hregistry : (dispatchCall r a module action data).registry =
        r.register (m.handled act e) := registry_of_accepted hacc
    rw [hregistry, Registry.find?_register, hname, if_neg h.symm]
  · obtain ⟨x, hx⟩ := refused_of_not_accepted hacc
    have hregistry : (dispatchCall r a module action data).registry = (dispatch r e).registry := rfl
    rw [hregistry, dispatch_of_refused hx]

/-- A call changes no module but the one that it names. A call that fails before it is dispatched
changes none. -/
theorem find?_handleCall {other : String} (h : other ≠ module) :
    (handleCall r a module action params).registry.find? other = r.find? other := by
  unfold handleCall
  dsimp only
  split
  · rfl
  · split
    · split
      · rfl
      · rfl
      · exact find?_dispatchCall h _
    · exact find?_dispatchCall h _

/-! ### The reply to a call -/

theorem Assembler.conclude_ne_pending (text : String) : conclude text ≠ .pending := by
  unfold conclude
  split
  · nofun
  · nofun

/-- A chunk is kept for later exactly if it is not the last one and its id can be used: there is an
id, it is not empty, and it is not used up. -/
theorem Assembler.feed_pending_iff (a : Assembler) (id : Option String) (chunk : String)
    (last : Bool) :
    (a.feed id chunk last).1 = .pending ↔
      last = false ∧ ∃ i, id = some i ∧ i ≠ "" ∧ i ∉ a.retired := by
  let c : Chunk := ⟨id, chunk, last⟩
  have htake : (a.feed id chunk last).1 = (a.take c).1 := rfl
  rw [htake]
  -- With such an id it depends on whether the chunk is the last one, and without one every chunk
  -- fails.
  by_cases husable : ∃ i, id = some i ∧ i ≠ "" ∧ i ∉ a.retired
  · obtain ⟨i, hid, hne, hretired⟩ := husable
    cases hlast : last with
    | false =>
        rw [take_more (c := c) hid hne hretired hlast]
        exact iff_of_true rfl ⟨rfl, i, hid, hne, hretired⟩
    | true =>
        rw [take_last (c := c) hid hne hretired hlast]
        exact iff_of_false (conclude_ne_pending _) (by simp)
  · have hfailed : (a.take c).1 = .failed := by
      cases hid : id with
      | none => rw [take_of_no_id (c := c) (.inl hid)]
      | some i =>
          by_cases hempty : i = ""
          · rw [take_of_no_id (c := c) (.inr (hid.trans (congrArg some hempty)))]
          · have hretired : i ∈ a.retired := by
              by_contra hnot
              exact husable ⟨i, hid, hempty, hnot⟩
            rw [take_of_retired (c := c) hid hretired]
    rw [hfailed]
    exact iff_of_false nofun (fun h => husable h.2)

/-- The parameters bring a chunk that is not the last one, under an id that can be used. This is a
property of the parameters and of the ids that are used up; what was gathered of the payload does
not matter. -/
def Awaits (a : Assembler) (params : Json.Members) : Prop :=
  ∃ p, Params.decoder.value (.object params) = .ok p ∧ p.multipart = true ∧ p.last = false ∧
    ∃ id, p.requestId = some id ∧ id ≠ "" ∧ id ∉ a.retired

/-- There is no reply exactly while more chunks are to come. -/
theorem reply_handleCall_eq_none_iff :
    (handleCall r a module action params).reply = none ↔ Awaits a params := by
  unfold Awaits handleCall
  dsimp only
  cases hparams : Params.decoder.value (.object params) with
  | error c => simp
  | ok p =>
      cases hmulti : p.multipart with
      | false => simp [hmulti, dispatchCall]
      | true =>
          have hpending := Assembler.feed_pending_iff a p.requestId (p.chunk.getD "") p.last
          rcases hfeed : a.feed p.requestId (p.chunk.getD "") p.last with ⟨fed, a'⟩
          rw [hfeed] at hpending
          cases fed <;> simpa [hmulti, hfeed, dispatchCall] using hpending

end Switchyard.Call
