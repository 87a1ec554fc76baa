import Switchyard.Modules.Echo
import Switchyard.Proofs.Bus.Client
import Switchyard.Proofs.Call.Outcome

/-!
# Switchyard.Proofs.Bus.Worker

**Every call is answered once, in the order of arrival** (`serves_in_order`), also a call that came
while the objects were still being registered.

* `Serves` — what a worker makes of one message: the messages that it writes, the registry and the
  assembler after it. There is one rule for each kind of answer, and none but these apply.
* `serves_answer` — the answer to a call that can be read follows these rules.
* `advances_step` — a step serves the messages that it handles, and takes at least one thing from
  the backlog or the stream unless the worker ends.

A worker is a client that answers the calls that it polls, so its steps are described by
`Client.Polled` for what was handled and by `Serves` for what was written. The proof has two parts.
During registration nothing is served: what comes is kept (`Keeps`), and the requests among it are
those that came. After that `Advances` says what steps make of a worker; `pending`, the length of
backlog and stream together, goes down with each of them, which is why enough steps leave nothing.

* `decodes_or_undecodable` — a call can be read or one of its attributes is bad, by the attributes
  themselves and not by the function that reads them.
* `serves_of_pass` — what the client does on its own, for pings and for calls that it cannot read,
  follows the rules as well.
* `advances_run` — by induction over the steps, with `Advances.trans`.
* `keeps_of_registers` — by induction over the registrations.
-/

namespace Switchyard.Bus

open Route Call

/-! ### Reading a call -/

/-- The parts of a call: its object and its method must be there, its table may be absent. An absent
table stands for an empty one. -/
structure Decodes (m : Message) (call : Invocation) : Prop where
  seq : call.seq = m.seq
  peer : call.peer = m.peer
  attributes : ∃ as, m.attributes = .ok as ∧
    wordOf objectId as = .ok call.object ∧ textOf methodId as = .ok call.method ∧
    ((Attribute.find? dataId as = none ∧ call.data = []) ∨
      ∃ a, Attribute.find? dataId as = some a ∧ readTable a.payload = .ok call.data)

/-- The attributes of a call do not parse, or one of its parts is missing or cannot be decoded. It
is spelled out rather than said as the negation of `Decodes`, so that a rule that rejects a call
names what is wrong with it. -/
def Undecodable (m : Message) : Prop :=
  (∃ e, m.attributes = .error e) ∨
    ∃ as, m.attributes = .ok as ∧
      ((∃ e, wordOf objectId as = .error e) ∨ (∃ e, textOf methodId as = .error e) ∨
        ∃ a e, Attribute.find? dataId as = some a ∧ readTable a.payload = .error e)

/-- What a table attribute gives: the empty table if there is no such attribute, and else what
reading it gives. -/
theorem tableOf_eq (as : List Attribute) :
    (Attribute.find? dataId as = none ∧ tableOf dataId as = .ok []) ∨
      ∃ a, Attribute.find? dataId as = some a ∧ tableOf dataId as = readTable a.payload := by
  unfold tableOf
  cases Attribute.find? dataId as with
  | none => exact .inl ⟨rfl, rfl⟩
  | some a => exact .inr ⟨a, rfl, rfl⟩

/-- A message is read as the call that its parts make, and else one of them is bad. The parts are
tried in the order of the code, and the first that is bad decides. -/
theorem decodes_or_undecodable (m : Message) :
    (∃ call, readable? m = some call ∧ Decodes m call) ∨
      (readable? m = none ∧ Undecodable m) := by
  unfold readable? Invocation.ofMessage
  cases hattributes : m.attributes with
  | error e => exact .inr ⟨rfl, .inl ⟨e, hattributes⟩⟩
  | ok as =>
      dsimp only
      cases hobject : wordOf objectId as with
      | error e => exact .inr ⟨rfl, .inr ⟨as, hattributes, .inl ⟨e, hobject⟩⟩⟩
      | ok object =>
          cases hmethod : textOf methodId as with
          | error e => exact .inr ⟨rfl, .inr ⟨as, hattributes, .inr (.inl ⟨e, hmethod⟩)⟩⟩
          | ok method =>
              rcases tableOf_eq as with ⟨hfind, htable⟩ | ⟨a, hfind, htable⟩
              · rw [htable]
                exact .inl ⟨_, rfl, rfl, rfl, as, hattributes, hobject, hmethod, .inl ⟨hfind, rfl⟩⟩
              · rw [htable]
                cases hread : readTable a.payload with
                | error e =>
                    exact .inr ⟨rfl, .inr ⟨as, hattributes, .inr (.inr ⟨a, e, hfind, hread⟩)⟩⟩
                | ok data =>
                    exact .inl ⟨_, rfl, rfl, rfl, as, hattributes, hobject, hmethod,
                      .inr ⟨a, hfind, hread⟩⟩

theorem decodes_of_readable {m : Message} {call : Invocation} (h : readable? m = some call) :
    Decodes m call := by
  rcases decodes_or_undecodable m with ⟨other, hread, hdecodes⟩ | ⟨hread, -⟩
  · rw [hread] at h
    exact Option.some.inj h ▸ hdecodes
  · rw [hread] at h
    cases h

theorem undecodable_of_unreadable {m : Message} (h : readable? m = none) : Undecodable m := by
  rcases decodes_or_undecodable m with ⟨call, hread, -⟩ | ⟨-, hbad⟩
  · rw [hread] at h
    cases h
  · exact hbad

/-! ### Serving a message -/

/-- What a worker makes of a message: what it writes for it, and how registry and assembler change.
The objects are listed with the modules that they were registered for.

There is one rule for each way to serve a message. Only `handled` has changes, and they are those of
`handleCall`; its field `silent` says that a call whose payload is not complete yet gets its status
and no data. -/
inductive Serves (objects : List (UInt32 × String)) :
    Registry → Assembler → Message → List Message → Registry → Assembler → Prop
  | ping {r : Registry} {a : Assembler} {m answer : Message} (kind : m.kind = .ping)
      (pong : answer.kind = .ping) (seq : answer.seq = m.seq) (peer : answer.peer = m.peer) :
      Serves objects r a m [answer] r a
  | other {r : Registry} {a : Assembler} {m : Message} (invoke : m.kind ≠ .invoke)
      (ping : m.kind ≠ .ping) : Serves objects r a m [] r a
  | undecodable {r : Registry} {a : Assembler} {m answer : Message} (kind : m.kind = .invoke)
      (bad : Undecodable m) (status : Concludes 2 m answer) : Serves objects r a m [answer] r a
  | unregistered {r : Registry} {a : Assembler} {m answer : Message} {call : Invocation}
      (kind : m.kind = .invoke) (decodes : Decodes m call)
      (object : ∀ name, (call.object, name) ∉ objects) (status : Concludes 4 m answer) :
      Serves objects r a m [answer] r a
  | handled {r : Registry} {a : Assembler} {m answer : Message} {call : Invocation} {name : String}
      {parts : List Message} {h : Handled} (kind : m.kind = .invoke) (decodes : Decodes m call)
      (object : (call.object, name) ∈ objects)
      (unique : ∀ other, (call.object, other) ∈ objects → other = name)
      (handling : h = handleCall r a name call.method call.data)
      (others : ∀ other, other ≠ name → h.registry.find? other = r.find? other)
      (data : ∀ part ∈ parts, part.kind = .data ∧ part.seq = m.seq ∧ part.peer = m.peer)
      (silent : parts = [] ↔ Awaits a call.data) (status : Concludes 0 m answer) :
      Serves objects r a m (parts ++ [answer]) h.registry h.assembler

/-- What a worker makes of messages one after another; there is one run of written messages for each
of them, so that what was written for one message is not mixed with what was written for the next.
-/
inductive ServesAll (objects : List (UInt32 × String)) :
    Registry → Assembler → List Message → List (List Message) → Registry → Assembler → Prop
  | nil {r : Registry} {a : Assembler} : ServesAll objects r a [] [] r a
  | cons {r r' r'' : Registry} {a a' a'' : Assembler} {m : Message} {ms : List Message}
      {out : List Message} {outs : List (List Message)} :
      Serves objects r a m out r' a' → ServesAll objects r' a' ms outs r'' a'' →
        ServesAll objects r a (m :: ms) (out :: outs) r'' a''

theorem ServesAll.append {objects : List (UInt32 × String)} {r r' r'' : Registry}
    {a a' a'' : Assembler} {ms ns : List Message} {outs more : List (List Message)}
    (h : ServesAll objects r a ms outs r' a') (h' : ServesAll objects r' a' ns more r'' a'') :
    ServesAll objects r a (ms ++ ns) (outs ++ more) r'' a'' := by
  induction h with
  | nil => exact h'
  | cons hm _ ih => exact .cons hm (ih h')

/-- A message that is not handed out as a call is served by what the client sends for it. Neither
registry nor assembler see it. -/
theorem serves_of_pass {objects : List (UInt32 × String)} {m : Message}
    (h : Client.callOf m = none) (r : Registry) (a : Assembler) :
    Serves objects r a m (Client.answerOf m).toList r a := by
  unfold Client.answerOf
  by_cases hinvoke : m.kind = .invoke
  · rw [Client.callOf_eq, if_pos hinvoke] at h
    rw [Client.react_of_unreadable hinvoke h]
    exact .undecodable hinvoke (undecodable_of_unreadable h) (Client.concludes_rejection m)
  · by_cases hping : m.kind = .ping
    · rw [Client.react_of_ping hping]
      exact .ping hping rfl rfl rfl
    · rw [Client.react_of_other hinvoke hping]
      exact .other hinvoke hping

theorem servesAll_of_pass {objects : List (UInt32 × String)} {ms : List Message}
    (h : ∀ m ∈ ms, Client.callOf m = none) (r : Registry) (a : Assembler) :
    ServesAll objects r a ms (ms.map fun m => (Client.answerOf m).toList) r a := by
  induction ms with
  | nil => exact .nil
  | cons m ms ih =>
      obtain ⟨hm, hms⟩ := List.forall_mem_cons.mp h
      exact .cons (serves_of_pass hm r a) (ih hms)

/-! ### Answering a call -/

namespace Worker

variable {w : Worker} {m : Message} {call : Invocation}

theorem mem_of_moduleOf? {object : UInt32} {name : String} (h : w.moduleOf? object = some name) :
    (object, name) ∈ w.objects := by
  obtain ⟨entry, hfind, rfl⟩ := Option.map_eq_some_iff.mp h
  have hobject : entry.1 = object := by simpa using List.find?_some hfind
  rw [← hobject]
  exact List.mem_of_find?_eq_some hfind

theorem notMem_of_moduleOf? {object : UInt32} (h : w.moduleOf? object = none) (name : String) :
    (object, name) ∉ w.objects := by
  intro hmem
  have hnone := Option.map_eq_none_iff.mp h
  exact List.find?_eq_none.mp hnone _ hmem (by simp)

/-- The parts that carry a reply, as they stand on the wire: at least one, all of them data for the
call, and the status behind them. -/
theorem replyMessages_of_reply (call : Invocation) (reply : Envelope) (code : UInt32) :
    ∃ parts, Client.replyMessages call (replyPayloads reply) code =
        parts ++ [lastMessage call code] ∧ parts ≠ [] ∧
      ∀ part ∈ parts, part.kind = .data ∧ part.seq = call.seq ∧ part.peer = call.peer := by
  refine ⟨(splitChunks reply.encode chunkLimit).map (partMessage call),
    replyMessages_texts call _ code, by simpa using splitChunks_ne_nil _ _, ?_⟩
  intro part hpart
  obtain ⟨text, -, rfl⟩ := List.mem_map.mp hpart
  exact ⟨rfl, rfl, rfl⟩

theorem concludes_lastMessage (h : Decodes m call) (code : UInt32) :
    Concludes code m (lastMessage call code) where
  kind := rfl
  seq := h.seq
  peer := h.peer
  status := (isEnd_lastMessage call code).status

/-- The answer to a call that was read follows the rules. The numbers of the objects are distinct,
so that the module that is found is the only one that the call can be for. -/
theorem serves_answer (hdistinct : (w.objects.map (·.1)).Nodup) (hkind : m.kind = .invoke)
    (hdecodes : Decodes m call) :
    ∃ out, (w.answer call).worker.client = w.client.send out ∧
      (w.answer call).worker.objects = w.objects ∧
      Serves w.objects w.registry w.assembler m out
        (w.answer call).worker.registry (w.answer call).worker.assembler := by
  unfold answer
  cases hmodule : w.moduleOf? call.object with
  | none =>
      exact ⟨[lastMessage call statusNotFound], rfl, rfl,
        .unregistered hkind hdecodes (notMem_of_moduleOf? hmodule)
          (concludes_lastMessage hdecodes statusNotFound)⟩
  | some name =>
      have hmem := mem_of_moduleOf? hmodule
      have hunique : ∀ other, (call.object, other) ∈ w.objects → other = name := by
        intro other hother
        have := List.inj_on_of_nodup_map hdistinct hother hmem rfl
        exact congrArg Prod.snd this
      have hothers : ∀ other, other ≠ name →
          (handleCall w.registry w.assembler name call.method call.data).registry.find? other =
            w.registry.find? other := fun other hne => find?_handleCall hne
      -- Data is written if the call has a reply. It has none if the assembler waits for more of its
      -- payload.
      have hstatus := concludes_lastMessage hdecodes statusOk
      cases hreply : (handleCall w.registry w.assembler name call.method call.data).reply with
      | none =>
          have hawaits := reply_handleCall_eq_none_iff.mp hreply
          refine ⟨[] ++ [lastMessage call statusOk], ?_, rfl,
            .handled hkind hdecodes hmem hunique rfl hothers (by simp) (by simp [hawaits]) hstatus⟩
          simp only [hreply]
          rfl
      | some reply =>
          obtain ⟨parts, hmessages, hne, hparts⟩ := replyMessages_of_reply call reply statusOk
          have hnot : ¬Awaits w.assembler call.data := by
            intro hawaits
            rw [reply_handleCall_eq_none_iff.mpr hawaits] at hreply
            cases hreply
          refine ⟨parts ++ [lastMessage call statusOk], ?_, rfl,
            .handled hkind hdecodes hmem hunique rfl hothers ?_ (iff_of_false hne hnot) hstatus⟩
          · simp only [hreply]
            rw [← hmessages]
            rfl
          · intro part hpart
            obtain ⟨hdata, hseq, hpeer⟩ := hparts part hpart
            exact ⟨hdata, hseq.trans hdecodes.seq, hpeer.trans hdecodes.peer⟩

/-- An answer does not end a worker. -/
theorem failure_answer (w : Worker) (call : Invocation) : (w.answer call).failure = none := by
  unfold answer
  split <;> rfl

/-! ### Steps -/

/-- What steps make of a worker: it took these readings, handled messages from the front of the
backlog and then of the stream, and wrote what serving them gives. -/
structure Advances (w w' : Worker) (taken : List Reading) (handled : List Message)
    (outs : List (List Message)) : Prop where
  reads : w.client.incoming = taken ++ w'.client.incoming
  order : w.client.backlog ++ messagesOf taken = handled ++ w'.client.backlog
  sent : w'.client.sent = w.client.sent ++ outs.flatten
  objects : w'.objects = w.objects
  serves : ServesAll w.objects w.registry w.assembler handled outs w'.registry w'.assembler

theorem Advances.refl (w : Worker) : Advances w w [] [] [] where
  reads := rfl
  order := List.append_nil _
  sent := (List.append_nil _).symm
  objects := rfl
  serves := .nil

/-- Steps after steps. Both are about the same objects, since a step registers none. -/
theorem Advances.trans {w₁ w₂ w₃ : Worker} {taken₁ taken₂ : List Reading}
    {handled₁ handled₂ : List Message} {outs₁ outs₂ : List (List Message)}
    (h₁ : Advances w₁ w₂ taken₁ handled₁ outs₁) (h₂ : Advances w₂ w₃ taken₂ handled₂ outs₂) :
    Advances w₁ w₃ (taken₁ ++ taken₂) (handled₁ ++ handled₂) (outs₁ ++ outs₂) where
  reads := by rw [h₁.reads, h₂.reads, List.append_assoc]
  order := by
    rw [messagesOf_append, ← List.append_assoc, h₁.order, List.append_assoc, h₂.order,
      List.append_assoc]
  sent := by rw [h₂.sent, h₁.sent, List.flatten_append, List.append_assoc]
  objects := h₂.objects.trans h₁.objects
  serves := h₁.serves.append (h₁.objects ▸ h₂.serves)

/-- How much a worker has still to handle: its backlog and all that can be read, idle moments
included. -/
def pending (w : Worker) : Nat :=
  w.client.backlog.length + w.client.incoming.length

/-- Messages are handled out of what is pending. An idle moment that was taken is not handled, so
that this is no equation. -/
theorem Advances.pending_le {w' : Worker} {taken : List Reading} {handled : List Message}
    {outs : List (List Message)} (h : Advances w w' taken handled outs) :
    w'.pending + handled.length ≤ w.pending := by
  have hreads := congrArg List.length h.reads
  have horder := congrArg List.length h.order
  have hmessages : (messagesOf taken).length ≤ taken.length := List.length_filterMap_le _ _
  simp only [List.length_append] at hreads horder
  unfold pending
  omega

/-- A poll without a call serves what it handles. It may have ended at an idle moment or at a
failure. -/
theorem advances_of_pass {result : Except Error (Option Invocation)} {c : Client}
    {taken : List Reading} {handled : List Message}
    (h : Client.Polled w.client.backlog w.client.incoming result w.client c taken handled)
    (hcall : result.toOption.join = none) :
    Advances w { w with client := c } taken handled
      (handled.map fun m => (Client.answerOf m).toList) where
  reads := h.reads
  order := h.order
  sent := by rw [h.handles.sent, List.filterMap_eq_flatMap_toList]; rfl
  objects := rfl
  serves := by
    have hpass := h.handles.calls
    rw [hcall] at hpass
    exact servesAll_of_pass (List.filterMap_eq_nil_iff.mp hpass) _ _

/-- A poll with a call serves what it handles before the call, and the call is answered. The call is
the last message that was handled, so that something was. -/
theorem advances_of_call (hdistinct : (w.objects.map (·.1)).Nodup) {c : Client}
    {taken : List Reading} {handled : List Message}
    (h : Client.Polled w.client.backlog w.client.incoming (.ok (some call)) w.client c taken
      handled) :
    handled ≠ [] ∧
      ∃ outs, Advances w ({ w with client := c }.answer call).worker taken handled outs := by
  obtain ⟨passed, m, rfl, hm⟩ := h.handles.last call rfl
  have hkind : m.kind = .invoke := by
    by_contra hkind
    rw [Client.callOf_eq, if_neg hkind] at hm
    cases hm
  have hdecodes : Decodes m call := by
    rw [Client.callOf_eq, if_pos hkind] at hm
    exact decodes_of_readable hm
  -- The call that was handed out is the only one among the handled messages, and it is the last.
  have hpassed : ∀ m ∈ passed, Client.callOf m = none := by
    have hcalls : passed.filterMap Client.callOf ++ [call] = [] ++ [call] := by
      have hall := h.handles.calls
      rwa [List.filterMap_append, List.filterMap_cons_some hm] at hall
    exact List.filterMap_eq_nil_iff.mp (List.append_cancel_right hcalls)
  have hanswer : Client.answerOf m = none := by
    rw [Client.answerOf, Client.react_of_callOf hm]
  obtain ⟨out, hclient, hobjects, hserves⟩ :=
    serves_answer (w := { w with client := c }) hdistinct hkind hdecodes
  refine ⟨by simp, passed.map (fun m => (Client.answerOf m).toList) ++ [out], ?_, ?_, ?_, hobjects,
    ?_⟩
  · rw [hclient]
    exact h.reads
  · rw [hclient]
    exact h.order
  · have hsent := h.handles.sent
    rw [List.filterMap_append, List.filterMap_cons_none hanswer, List.filterMap_nil,
      List.append_nil, List.filterMap_eq_flatMap_toList] at hsent
    rw [hclient, List.flatten_append, List.flatten_singleton, ← List.append_assoc]
    exact congrArg (· ++ out) hsent
  · exact (servesAll_of_pass hpassed _ _).append (.cons hserves .nil)

/-- A step serves what it handles. Unless the worker ends, less is pending after it; if it ends,
then at a failure of the stream or with nothing pending. -/
theorem advances_step (hdistinct : (w.objects.map (·.1)).Nodup) :
    ∃ taken handled outs, Advances w w.step.worker taken handled outs ∧
      (w.step.failure = none → w.step.worker.pending < w.pending) ∧
      ∀ e, w.step.failure = some e →
        w.step.worker.pending = 0 ∨ .failed e ∈ w.client.incoming := by
  obtain ⟨taken, handled, h⟩ := Client.polled_poll w.client
  rcases hpoll : w.client.poll with ⟨result, c⟩
  simp only [hpoll] at h
  cases result with
  | error e =>
      have hstep : w.step = ⟨{ w with client := c }, some e, [], 0⟩ := by
        unfold step
        rw [hpoll]
      rw [hstep]
      refine ⟨taken, handled, _, advances_of_pass h rfl, nofun, ?_⟩
      rintro e' ⟨⟩
      obtain ⟨hbacklog, hend⟩ := h.failed e rfl
      refine hend.imp (fun hincoming => ?_) (fun hfailed => ?_)
      · simp [pending, hbacklog, hincoming]
      · rw [h.reads]
        exact List.mem_append_left _ hfailed
  | ok call? =>
      cases call? with
      | none =>
          have hstep : w.step = ⟨{ w with client := c }, none, [], 0⟩ := by
            unfold step
            rw [hpoll]
          have hadvances := advances_of_pass h rfl
          rw [hstep]
          refine ⟨taken, handled, _, hadvances, fun _ => ?_, nofun⟩
          -- The idle moment was taken and is no message.
          have hidle : (messagesOf taken).length < taken.length :=
            List.length_filterMap_lt_length_iff_exists.mpr ⟨.idle, (h.idle rfl).2, rfl⟩
          have hreads := congrArg List.length h.reads
          have horder := congrArg List.length h.order
          simp only [List.length_append] at hreads horder
          simp only [pending]
          omega
      | some call =>
          have hstep : w.step = { w with client := c }.answer call := by
            unfold step
            rw [hpoll]
          obtain ⟨hne, outs, hadvances⟩ := advances_of_call hdistinct h
          rw [hstep]
          refine ⟨taken, handled, outs, hadvances, fun _ => ?_, ?_⟩
          · have hpos := List.length_pos_iff.mpr hne
            have hle := hadvances.pending_le
            omega
          · intro e he
            rw [failure_answer] at he
            cases he

/-- Steps serve what they handle, and enough of them handle everything unless the stream fails. By
induction over the steps; the bound on their number is used in the second part only. -/
theorem advances_run (hdistinct : (w.objects.map (·.1)).Nodup) (steps : Nat) :
    ∃ taken handled outs, Advances w (w.run steps).worker taken handled outs ∧
      ((∀ e, .failed e ∉ w.client.incoming) → w.pending ≤ steps →
        (w.run steps).worker.pending = 0) := by
  induction steps generalizing w with
  | zero => exact ⟨[], [], [], .refl w, fun _ hle => Nat.le_zero.mp hle⟩
  | succ steps ih =>
      obtain ⟨taken, handled, outs, hstep, hless, hend⟩ := advances_step hdistinct
      unfold run
      cases hfailure : w.step.failure with
      | some e =>
          -- A sound stream fails only at its end, so that nothing is pending any more.
          refine ⟨taken, handled, outs, by simpa [hfailure] using hstep, fun hsound _ => ?_⟩
          have hzero := (hend e hfailure).resolve_right (hsound e)
          simpa [hfailure] using hzero
      | none =>
          -- The hypotheses of the induction hold of the worker after the step: it has the same
          -- objects, and what it can read is a part of what could be read before.
          have hdistinct' : (w.step.worker.objects.map (·.1)).Nodup := hstep.objects ▸ hdistinct
          obtain ⟨taken', handled', outs', hrun, hdone⟩ := ih hdistinct'
          refine ⟨_, _, _, by simpa [hfailure] using hstep.trans hrun, fun hsound hle => ?_⟩
          have hsound' : ∀ e, .failed e ∉ w.step.worker.client.incoming := by
            intro e hmem
            refine hsound e ?_
            rw [hstep.reads]
            exact List.mem_append_right _ hmem
          have hpending := hless hfailure
          have hzero := hdone hsound' (by omega)
          simpa [hfailure] using hzero

/-! ### Registration -/

/-- Objects are registered for modules one after another; the objects that the bus gave are listed
with the modules, the latest first. -/
inductive Registers : List Module → Client → List (UInt32 × String) → Client → Prop
  | nil {c : Client} : Registers [] c [] c
  | cons {m : Module} {rest : List Module} {c c' c'' : Client} {object : UInt32}
      {objects : List (UInt32 × String)}
      (given : c.addObject (objectName m.name) (m.actions.map (·.name)) = (.ok object, c')) :
      Registers rest c' objects c'' → Registers (m :: rest) c (objects ++ [(object, m.name)]) c''

/-- A worker whose objects were registered in this way is ready, with the client and the objects
that `Registers` gives. The objects that it had come last. -/
theorem register_of_registers {ms : List Module} {c c' : Client} {objects : List (UInt32 × String)}
    (h : Registers ms c objects c') (w : Worker) (hw : w.client = c) :
    w.register ms = (.ok (), { w with client := c', objects := objects ++ w.objects }) := by
  induction h generalizing w with
  | nil => subst hw; rfl
  | @cons m rest c c' c'' object objects given _ ih =>
      subst hw
      unfold register
      rw [given]
      dsimp only
      rw [ih { w with client := c', objects := (object, m.name) :: w.objects } rfl,
        List.append_assoc]
      rfl

/-- The messages that a worker has to do with: calls and pings. Everything else is an answer to a
request of the worker, or nothing that concerns it. -/
def requests (ms : List Message) : List Message :=
  ms.filter fun m => m.kind = .invoke ∨ m.kind = .ping

@[simp] theorem requests_append (ms ns : List Message) :
    requests (ms ++ ns) = requests ms ++ requests ns :=
  List.filter_append _ _

/-- No request belongs to an answer. What is taken for an answer is data or a status. -/
theorem requests_filter (seq : UInt16) (ms : List Message) :
    requests (ms.filter (¬ Client.answers seq ·)) = requests ms := by
  unfold requests
  rw [List.filter_filter]
  refine List.filter_congr fun m _ => ?_
  by_cases hinvoke : m.kind = .invoke
  · simp [Client.answers, hinvoke]
  · by_cases hping : m.kind = .ping <;> simp [Client.answers, hinvoke, hping]

/-- What comes while objects are registered is kept for later, but for the answers. The kept
messages are no more than were read, which bounds the steps that are needed after it. -/
structure Keeps (c c' : Client) (taken : List Reading) (kept announced : List Message) : Prop where
  reads : c.incoming = taken ++ c'.incoming
  keeps : c'.backlog = c.backlog ++ kept
  requests : requests kept = Worker.requests (messagesOf taken)
  length_le : kept.length ≤ taken.length
  sent : c'.sent = c.sent ++ announced
  kind : ∀ m ∈ announced, m.kind = .addObject

theorem Keeps.refl (c : Client) : Keeps c c [] [] [] where
  reads := rfl
  keeps := (List.append_nil _).symm
  requests := rfl
  length_le := Nat.le_refl _
  sent := (List.append_nil _).symm
  kind := by simp

/-- Objects are registered after others. What was kept before comes first. -/
theorem Keeps.trans {c₁ c₂ c₃ : Client} {taken₁ taken₂ : List Reading}
    {kept₁ kept₂ announced₁ announced₂ : List Message}
    (h₁ : Keeps c₁ c₂ taken₁ kept₁ announced₁) (h₂ : Keeps c₂ c₃ taken₂ kept₂ announced₂) :
    Keeps c₁ c₃ (taken₁ ++ taken₂) (kept₁ ++ kept₂) (announced₁ ++ announced₂) where
  reads := by rw [h₁.reads, h₂.reads, List.append_assoc]
  keeps := by rw [h₂.keeps, h₁.keeps, List.append_assoc]
  requests := by
    rw [messagesOf_append, requests_append, requests_append, h₁.requests, h₂.requests]
  length_le := by
    rw [List.length_append, List.length_append]
    exact Nat.add_le_add h₁.length_le h₂.length_le
  sent := by rw [h₂.sent, h₁.sent, List.append_assoc]
  kind m hm := (List.mem_append.mp hm).elim (h₁.kind m) (h₂.kind m)

/-- Nothing more has to be handled after registration than before it. -/
theorem Keeps.length_add_le {c c' : Client} {taken : List Reading} {kept announced : List Message}
    (h : Keeps c c' taken kept announced) :
    c'.backlog.length + c'.incoming.length ≤ c.backlog.length + c.incoming.length := by
  have hreads := congrArg List.length h.reads
  have hkeeps := congrArg List.length h.keeps
  have hlength := h.length_le
  simp only [List.length_append] at hreads hkeeps
  omega

/-- A registration is a request and keeps what is not its answer. What it writes is the announcement
of the object and nothing else. -/
theorem keeps_addObject (path : String) (methods : List String) (c : Client) :
    ∃ taken kept announced, Keeps c (c.addObject path methods).2 taken kept announced := by
  let items := [Item.text pathId path, .nested signatureId (methods.map Client.signature)]
  obtain ⟨taken, h⟩ := Client.asked_request .addObject 0 items c
  rw [Client.addObject_client]
  refine ⟨taken, _, [.of .addObject (c.seq + 1) 0 items], h.reads, h.keeps, requests_filter _ _,
    ?_, rfl, ?_⟩
  · exact Nat.le_trans (List.length_filter_le _ _) (List.length_filterMap_le _ _)
  · intro m hm
    rw [List.mem_singleton.mp hm]
    rfl

theorem keeps_of_registers {ms : List Module} {c c' : Client} {objects : List (UInt32 × String)}
    (h : Registers ms c objects c') : ∃ taken kept announced, Keeps c c' taken kept announced := by
  induction h with
  | nil => exact ⟨_, _, _, .refl _⟩
  | @cons m rest c c' c'' object objects given _ ih =>
      obtain ⟨taken₁, kept₁, announced₁, h₁⟩ :=
        keeps_addObject (objectName m.name) (m.actions.map (·.name)) c
      rw [given] at h₁
      obtain ⟨taken₂, kept₂, announced₂, h₂⟩ := ih
      exact ⟨_, _, _, h₁.trans h₂⟩

/-- **Every call is answered once, in the order of arrival.** A worker whose objects were
registered, each under a number of its own, serves the calls and pings that come, also those that
came during registration: what it wrote after any number of steps is, message for message, what
`ServesAll` gives for the messages that it handled, and these are the first of those that came. If
the stream does not fail, enough steps handle all. -/
theorem serves_in_order (r : Registry) (c c' : Client) (objects : List (UInt32 × String))
    (hregisters : Registers r c objects c') (hdistinct : (objects.map (·.1)).Nodup)
    (steps : Nat) :
    ∃ w, start r c = (.ok (), w) ∧
      ∃ taken handled outs announced,
        c.incoming = taken ++ (w.run steps).worker.client.incoming ∧
        requests c.backlog ++ requests (messagesOf taken) =
          requests handled ++ requests (w.run steps).worker.client.backlog ∧
        (w.run steps).worker.client.sent = c.sent ++ announced ++ outs.flatten ∧
        (∀ m ∈ announced, m.kind = .addObject) ∧
        ServesAll objects r .empty handled outs (w.run steps).worker.registry
          (w.run steps).worker.assembler ∧
        ((∀ e, .failed e ∉ c.incoming) → c.backlog.length + c.incoming.length ≤ steps →
          (w.run steps).worker.client.incoming = [] ∧
            (w.run steps).worker.client.backlog = []) := by
  -- The worker after its registration, which is where its steps begin.
  let w : Worker := ⟨c', r, objects, .empty⟩
  have hstart : start r c = (.ok (), w) := by
    have hregister := register_of_registers hregisters ⟨c, r, [], .empty⟩ rfl
    rw [List.append_nil] at hregister
    exact hregister
  obtain ⟨taken₁, kept, announced, h₁⟩ := keeps_of_registers hregisters
  obtain ⟨taken₂, handled, outs, h₂, hdone⟩ := advances_run (w := w) hdistinct steps
  refine ⟨w, hstart, taken₁ ++ taken₂, handled, outs, announced, ?_, ?_, ?_, h₁.kind, h₂.serves, ?_⟩
  · have hreads : c'.incoming = taken₂ ++ (w.run steps).worker.client.incoming := h₂.reads
    rw [h₁.reads, hreads, List.append_assoc]
  · -- Registration took its own answers out of the stream, so that this is about requests only.
    have horder : c'.backlog ++ messagesOf taken₂ =
        handled ++ (w.run steps).worker.client.backlog := h₂.order
    rw [← requests_append handled, ← horder, h₁.keeps, messagesOf_append, requests_append,
      requests_append, requests_append, h₁.requests, List.append_assoc]
  · have hsent : (w.run steps).worker.client.sent = c'.sent ++ outs.flatten := h₂.sent
    rw [hsent, h₁.sent]
  · intro hsound hle
    have hsound' : ∀ e, .failed e ∉ w.client.incoming := by
      intro e hmem
      refine hsound e ?_
      rw [h₁.reads]
      exact List.mem_append_right _ hmem
    have hzero := hdone hsound' (Nat.le_trans h₁.length_add_le hle)
    unfold pending at hzero
    exact ⟨List.length_eq_zero_iff.mp (by omega), List.length_eq_zero_iff.mp (by omega)⟩

/-- A connection over which a call comes before its object is registered, and a ping after that. -/
def earlyCall : Client where
  peer := 1
  seq := 0
  backlog := []
  incoming := [.message (.of .invoke 9 5 [.word objectId 7, .text methodId "echo"]),
    .message (.of .data 1 0 [.word objectId 7]), .message (.of .status 1 0 [.word statusId 0]),
    .idle, .message (.of .ping 3 5 [])]
  sent := []

/-- Five steps serve the early call and the ping. -/
theorem serves_in_order_early :
    Registers [Modules.Echo.module] earlyCall [(7, "echo")]
        (earlyCall.addObject (objectName "echo") ["echo"]).2 ∧
      ([(7, "echo")].map (·.1) : List UInt32).Nodup ∧
      ∃ w, start [Modules.Echo.module] earlyCall = (.ok (), w) ∧
        (w.run 5).worker.client.incoming = [] ∧ (w.run 5).worker.client.backlog = [] := by
  have hregisters : Registers [Modules.Echo.module] earlyCall [(7, "echo")]
      (earlyCall.addObject (objectName "echo") ["echo"]).2 :=
    .cons (Prod.ext (by rfl) rfl) .nil
  have hdistinct : ([(7, "echo")].map (·.1) : List UInt32).Nodup := by decide
  obtain ⟨w, hstart, _, _, _, _, _, _, _, _, _, hdone⟩ :=
    serves_in_order [Modules.Echo.module] earlyCall _ _ hregisters hdistinct 5
  have hall := hdone (by simp [earlyCall]) (by decide)
  exact ⟨hregisters, hdistinct, w, hstart, hall.1, hall.2⟩

end Worker
end Switchyard.Bus
