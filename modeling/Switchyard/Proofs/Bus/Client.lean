import Mathlib.Data.List.Forall2
import Switchyard.Proofs.Bus.Reply

/-!
# Switchyard.Proofs.Bus.Client

**Requests and calls share a connection without loss** (`requests_keep_calls`). A request takes the
messages of its own answer and puts all others behind the backlog (`asked_request`); `poll` takes
the backlog before anything new (`polled_poll`). So, whatever requests come in between and however
they end, calls are handed out or rejected once each and in the order in which they came.

The loops behind `poll` share one description, `Handles`: which messages were handled, what was sent
for them and which call was handed out. It is kept by a message that is not a call
(`Handles.cons`).

A connection is described by what was taken from it, and every description (`Collects`, `Asked`,
`Polled`, `Performed`) begins with the same equation, `reads`: what could be read before is what was
taken and what can be read after. The descriptions are closed under one more message, so the loops
are inductions over the readings, and `Performed` is closed under doing one thing after another
(`Performed.trans`), so any use of a client is an induction over its uses. Nothing is assumed of the
readings: a stream may be idle or fail at any place, a server may answer twice, in another order, or
not at all.

* `collects_collect` — the loop of a request, with one lemma for each kind of message it may find
  first (`Collects.other`, `Collects.part`, `Collects.last`).
* `polled_pollIncoming`, `polled_pollBacklog` — the loops of a poll.
* `react_of_readable`, `react_of_unreadable`, `react_of_ping`, `react_of_other` — what a message
  makes the client do. Nothing else opens `react`.
* `callOf_eq`, `filter_answerOf` — of this, the calls and the statuses, which is all that the result
  speaks of.
-/

namespace Switchyard.Bus

/-! ### Messages and their order -/

/-- The message of a reading. -/
def Reading.message? : Reading → Option Message
  | .message m => some m
  | .idle | .failed _ => none

/-- The messages among readings. A moment at which nothing could be read and a failure are none. -/
def messagesOf (rs : List Reading) : List Message :=
  rs.filterMap Reading.message?

@[simp] theorem messagesOf_nil : messagesOf [] = [] := rfl

@[simp] theorem messagesOf_message (m : Message) (rs : List Reading) :
    messagesOf (.message m :: rs) = m :: messagesOf rs := rfl

@[simp] theorem messagesOf_idle (rs : List Reading) :
    messagesOf (.idle :: rs) = messagesOf rs := rfl

@[simp] theorem messagesOf_failed (e : Error) (rs : List Reading) :
    messagesOf (.failed e :: rs) = messagesOf rs := rfl

@[simp] theorem messagesOf_append (rs ts : List Reading) :
    messagesOf (rs ++ ts) = messagesOf rs ++ messagesOf ts :=
  List.filterMap_append

/-- The calls among messages. -/
def invokes (ms : List Message) : List Message :=
  ms.filter (·.kind = .invoke)

@[simp] theorem invokes_append (ms ns : List Message) :
    invokes (ms ++ ns) = invokes ms ++ invokes ns :=
  List.filter_append _ _

/-- The call that a message is, if it can be read. -/
def readable? (m : Message) : Option Invocation :=
  (Invocation.ofMessage m).toOption

/-- The calls among messages that cannot be read. They are not handed out but rejected. -/
def unreadable (ms : List Message) : List Message :=
  (invokes ms).filter fun m => (readable? m).isNone

namespace Client

/-! ### Requests -/

/-- Readings that complete the answer to a request: messages up to the first status of the request,
which is 0. The parts are the data of the request among them. Messages of other conversations may
stand between the parts. -/
def Completes (seq : UInt16) (taken : List Reading) (parts : List Message) : Prop :=
  ∃ before last, taken = (before ++ [last]).map .message ∧
    (∀ m ∈ before, ¬ (m.kind = .status ∧ m.seq = seq)) ∧
    last.kind = .status ∧ last.seq = seq ∧ last.status = .ok 0 ∧
    parts = before.filter fun m => m.kind = .data ∧ m.seq = seq

variable {seq : UInt16} {parts kept more ms handled : List Message} {m : Message}
  {rs taken : List Reading} {c c' : Client} {result : Except Error (Option Invocation)}

/-- A message before the end of the answer is a part or none, and does not end the answer. -/
theorem Completes.cons (h : Completes seq taken parts) (hm : ¬ (m.kind = .status ∧ m.seq = seq)) :
    Completes seq (.message m :: taken)
      (([m].filter fun m => m.kind = .data ∧ m.seq = seq) ++ parts) := by
  obtain ⟨before, last, htaken, hbefore, hkind, hseq, hstatus, hparts⟩ := h
  refine ⟨m :: before, last, ?_, List.forall_mem_cons.mpr ⟨hm, hbefore⟩, hkind, hseq, hstatus, ?_⟩
  · rw [htaken]
    rfl
  · rw [hparts, ← List.filter_append, List.singleton_append]

theorem conclude_eq_ok_iff {all : List Message} {last : Message} :
    conclude parts last = .ok all ↔ last.status = .ok 0 ∧ all = parts := by
  unfold conclude Message.status
  cases last.attributes with
  | error e => simp [Except.bind]
  | ok attributes =>
      dsimp only [Except.bind]
      cases wordOf statusId attributes with
      | error e => simp
      | ok code => by_cases hcode : code = 0 <;> simp [hcode, eq_comm]

/-- A message belongs to the answer of a request if it has its number and is data or a status. A
ping or a call with that number does not. -/
theorem answers_iff :
    answers seq m = true ↔ m.seq = seq ∧ (m.kind = .data ∨ m.kind = .status) := by
  simp [answers]

/-- What is read for an answer: what does not belong to it is kept, and parts are given only if the
answer is complete. The loop begins with parts that it has and messages that it keeps, so that the
statement can be proved by induction. -/
structure Collects (seq : UInt16) (parts kept : List Message) (rs : List Reading) (answer : Answer)
    (taken : List Reading) : Prop where
  reads : rs = taken ++ answer.rest
  keeps : answer.kept = kept ++ (messagesOf taken).filter (¬ answers seq ·)
  completes : ∀ all, answer.parts = .ok all →
    ∃ more, Completes seq taken more ∧ all = parts ++ more

/-- The first message belongs to another conversation. It is kept, in front of what is kept later.
-/
theorem Collects.other {answer : Answer} (h : Collects seq parts (kept ++ [m]) rs answer taken)
    (hm : ¬ (m.seq = seq ∧ (m.kind = .data ∨ m.kind = .status))) :
    Collects seq parts kept (.message m :: rs) answer (.message m :: taken) where
  reads := congrArg (.message m :: ·) h.reads
  keeps := by
    have hother : ¬ answers seq m = true := mt answers_iff.mp hm
    rw [h.keeps, messagesOf_message, List.filter_cons_of_pos (by simpa using hother),
      List.append_assoc, List.singleton_append]
  completes all hall := by
    obtain ⟨more, hmore, rfl⟩ := h.completes all hall
    have hcons := hmore.cons (m := m) (fun h => hm ⟨h.2, .inr h.1⟩)
    rw [List.filter_cons_of_neg (by simpa using fun hk hs => hm ⟨hs, .inl hk⟩)] at hcons
    exact ⟨more, hcons, rfl⟩

/-- The first message is a part of the answer. It is not kept, and comes before the other parts. -/
theorem Collects.part {answer : Answer} (h : Collects seq (parts ++ [m]) kept rs answer taken)
    (hseq : m.seq = seq) (hkind : m.kind = .data) :
    Collects seq parts kept (.message m :: rs) answer (.message m :: taken) where
  reads := congrArg (.message m :: ·) h.reads
  keeps := by
    rw [h.keeps, messagesOf_message,
      List.filter_cons_of_neg (by simp [answers, hseq, hkind])]
  completes all hall := by
    obtain ⟨more, hmore, rfl⟩ := h.completes all hall
    have hcons := hmore.cons (m := m) (by simp [hkind])
    rw [List.filter_cons_of_pos (by simp [hseq, hkind])] at hcons
    exact ⟨m :: more, hcons, by simp⟩

/-- The first message ends the answer, whatever its status says. What comes after it is not read. -/
theorem Collects.last (hseq : m.seq = seq) (hkind : m.kind = .status) (rs : List Reading) :
    Collects seq parts kept (.message m :: rs) ⟨conclude parts m, kept, rs⟩ [.message m] where
  reads := rfl
  keeps := by simp [answers, hseq, hkind]
  completes all hall := by
    obtain ⟨hstatus, rfl⟩ := conclude_eq_ok_iff.mp hall
    exact ⟨[], ⟨[], m, rfl, by simp, hkind, hseq, hstatus, rfl⟩, by simp⟩

/-- The loop of a request keeps what is not for it. By induction over the readings, with the parts
and the kept messages arbitrary, since each message adds to one of the two. -/
theorem collects_collect (seq : UInt16) (parts kept : List Message) (rs : List Reading) :
    ∃ taken, Collects seq parts kept rs (collect seq parts kept rs) taken := by
  induction rs generalizing parts kept with
  | nil => exact ⟨[], rfl, by simp [collect], by simp [collect]⟩
  | cons r rest ih =>
      cases r with
      | idle => exact ⟨[.idle], rfl, by simp [collect], by simp [collect]⟩
      | failed e => exact ⟨[.failed e], rfl, by simp [collect], by simp [collect]⟩
      | message m =>
          by_cases hanswers : m.seq = seq ∧ (m.kind = .data ∨ m.kind = .status)
          · have hbelongs : answers seq m = true := answers_iff.mpr hanswers
            -- Of this conversation: a part, after which more is read, or the status that ends it.
            obtain ⟨hseq, hkind | hkind⟩ := hanswers
            · have hpart : collect seq parts kept (.message m :: rest) =
                  collect seq (parts ++ [m]) kept rest := by
                rw [collect, if_pos hbelongs, if_neg (by simp [hkind])]
              obtain ⟨taken, h⟩ := ih (parts ++ [m]) kept
              rw [hpart]
              exact ⟨_, h.part hseq hkind⟩
            · have hlast : collect seq parts kept (.message m :: rest) =
                  ⟨conclude parts m, kept, rest⟩ := by
                rw [collect, if_pos hbelongs, if_pos hkind]
              rw [hlast]
              exact ⟨_, .last hseq hkind rest⟩
          · have hother : collect seq parts kept (.message m :: rest) =
                collect seq parts (kept ++ [m]) rest := by
              rw [collect, if_neg (mt answers_iff.mp hanswers)]
            obtain ⟨taken, h⟩ := ih parts (kept ++ [m])
            rw [hother]
            exact ⟨_, h.other hanswers⟩

/-- What a request makes of a client: it took these readings, put all of their messages that do not
belong to its answer behind the backlog, and gives the parts of a complete answer only. The first
two hold also if the request fails, so that no call is lost with it. -/
structure Asked (seq : UInt16) (result : Except Error (List Message)) (c c' : Client)
    (taken : List Reading) : Prop where
  reads : c.incoming = taken ++ c'.incoming
  keeps : c'.backlog = c.backlog ++ (messagesOf taken).filter (¬ answers seq ·)
  completes : ∀ parts, result = .ok parts → Completes seq taken parts

/-- A request is asked under the next number and collects its answer with nothing at hand and the
backlog to keep. -/
theorem asked_request (kind : Kind) (peer : UInt32) (items : List Item) (c : Client) :
    ∃ taken,
      Asked (c.seq + 1) (c.request kind peer items).1 c (c.request kind peer items).2 taken := by
  obtain ⟨taken, h⟩ := collects_collect (c.seq + 1) [] c.backlog c.incoming
  refine ⟨taken, h.reads, h.keeps, fun parts hparts => ?_⟩
  obtain ⟨more, hmore, rfl⟩ := h.completes parts hparts
  exact hmore

/-! ### Handling messages -/

/-- The call that is handed out for a message. -/
def callOf (m : Message) : Option Invocation :=
  match react m with
  | .call i => some i
  | .answer _ | .skip => none

/-- What is sent for a message. -/
def answerOf (m : Message) : Option Message :=
  match react m with
  | .answer a => some a
  | .call _ | .skip => none

theorem react_of_readable {i : Invocation} (hkind : m.kind = .invoke)
    (h : readable? m = some i) : react m = .call i := by
  unfold readable? at h
  unfold react
  rw [hkind]
  cases hread : Invocation.ofMessage m with
  | error e => rw [hread] at h; cases h
  | ok j => rw [hread] at h; cases h; rfl

theorem react_of_unreadable (hkind : m.kind = .invoke) (h : readable? m = none) :
    react m = .answer (rejection m) := by
  unfold readable? at h
  unfold react
  rw [hkind]
  cases hread : Invocation.ofMessage m with
  | error e => rfl
  | ok j => rw [hread] at h; cases h

theorem react_of_ping (hkind : m.kind = .ping) :
    react m = .answer (.of .ping m.seq m.peer []) := by
  unfold react
  rw [hkind]

theorem react_of_other (hinvoke : m.kind ≠ .invoke) (hping : m.kind ≠ .ping) :
    react m = .skip := by
  unfold react
  split
  · rename_i hkind
    exact absurd hkind hinvoke
  · rename_i hkind
    exact absurd hkind hping
  · rfl

theorem react_of_callOf {call : Invocation} (h : callOf m = some call) :
    react m = .call call := by
  unfold callOf at h
  split at h
  · rename_i hreact
    cases h
    exact hreact
  all_goals cases h

theorem callOf_eq (m : Message) : callOf m = if m.kind = .invoke then readable? m else none := by
  unfold callOf
  by_cases hinvoke : m.kind = .invoke
  · rw [if_pos hinvoke]
    cases hread : readable? m with
    | none => rw [react_of_unreadable hinvoke hread]
    | some i => rw [react_of_readable hinvoke hread]
  · rw [if_neg hinvoke]
    by_cases hping : m.kind = .ping
    · rw [react_of_ping hping]
    · rw [react_of_other hinvoke hping]

/-- A status is sent only for a call that cannot be read. The other thing that is sent is the answer
to a ping, which is no status. -/
theorem filter_answerOf (m : Message) :
    (answerOf m).filter (·.kind = .status) =
      if m.kind = .invoke ∧ (readable? m).isNone then some (rejection m) else none := by
  unfold answerOf
  by_cases hinvoke : m.kind = .invoke
  · cases hread : readable? m with
    | none => rw [react_of_unreadable hinvoke hread, if_pos ⟨hinvoke, rfl⟩]; rfl
    | some i => rw [react_of_readable hinvoke hread, if_neg (by simp)]; rfl
  · rw [if_neg (fun h => hinvoke h.1)]
    by_cases hping : m.kind = .ping
    · rw [react_of_ping hping]; rfl
    · rw [react_of_other hinvoke hping]; rfl

/-- The calls handed out for messages are those that can be read. -/
theorem filterMap_callOf (ms : List Message) :
    ms.filterMap callOf = (invokes ms).filterMap readable? := by
  unfold invokes
  rw [List.filterMap_filter]
  congr 1
  funext m
  simpa using callOf_eq m

/-- The statuses sent for messages are the rejections of the calls that cannot be read. -/
theorem filter_filterMap_answerOf (ms : List Message) :
    (ms.filterMap answerOf).filter (·.kind = .status) = (unreadable ms).map rejection := by
  unfold unreadable invokes
  rw [List.filter_filterMap, List.filter_filter, ← List.filterMap_eq_map, List.filterMap_filter]
  congr 1
  funext m
  rw [filter_answerOf]
  simp [and_comm]

/-- A call that cannot be read is answered with status 2, under its own number and for its own peer.
It names the object if at least that could be read. -/
theorem concludes_rejection (m : Message) : Concludes 2 m (rejection m) := by
  refine ⟨rfl, rfl, rfl, ?_⟩
  -- The status comes first in a rejection, and the object after it only if it is known.
  have hattributes : ∃ as, (rejection m).attributes =
      .ok ((Item.word statusId invalidArgument).toAttribute :: as) := by
    have hstatus := fits_word statusId (by decide) invalidArgument
    unfold rejection
    cases (m.attributes.toOption).bind fun a => (wordOf objectId a).toOption with
    | none => exact ⟨_, Message.attributes_of (by simpa using hstatus) _ _ _⟩
    | some object =>
        have hobject := fits_word objectId (by decide) object
        exact ⟨_, Message.attributes_of (by simpa using ⟨hstatus, hobject⟩) _ _ _⟩
  obtain ⟨as, has⟩ := hattributes
  rw [status_of has, wordOf_word_self]
  rfl

/-! ### Polling -/

/-- What handling these messages one after another makes of a client: what is sent for them is sent,
and handling ends with the first call, which is handed out. No other call is among them. -/
structure Handles (handled : List Message) (call? : Option Invocation) (c c' : Client) : Prop where
  sent : c'.sent = c.sent ++ handled.filterMap answerOf
  calls : handled.filterMap callOf = call?.toList
  last : ∀ call, call? = some call → ∃ passed m, handled = passed ++ [m] ∧ callOf m = some call

theorem Handles.nil (h : c'.sent = c.sent) : Handles [] none c c' where
  sent := by rw [h, List.filterMap_nil, List.append_nil]
  calls := rfl
  last _ hcall := nomatch hcall

/-- A message that is not a call is handled, and then the others. What is sent for it goes out
first. -/
theorem Handles.cons {call? : Option Invocation}
    (h : Handles handled call? (c.send (answerOf m).toList) c') (hm : callOf m = none) :
    Handles (m :: handled) call? c c' where
  sent := by
    rw [h.sent, send, List.append_assoc]
    cases hanswer : answerOf m with
    | none => rw [List.filterMap_cons_none hanswer]; rfl
    | some a => rw [List.filterMap_cons_some hanswer]; rfl
  calls := by rw [List.filterMap_cons_none hm, h.calls]
  last call hcall := by
    obtain ⟨passed, last, rfl, hlast⟩ := h.last call hcall
    exact ⟨m :: passed, last, rfl, hlast⟩

/-- A call is handed out. Nothing is sent for it here, as its answer is for the one who polls to
give. -/
theorem Handles.call {call : Invocation} (h : c'.sent = c.sent) (hm : callOf m = some call) :
    Handles [m] (some call) c c' where
  sent := by
    have hanswer : answerOf m = none := by
      rw [answerOf, react_of_callOf hm]
    rw [h, List.filterMap_cons_none hanswer, List.filterMap_nil, List.append_nil]
  calls := by
    rw [List.filterMap_cons_some hm]
    rfl
  last _ hcall := ⟨[], m, rfl, hm.trans hcall⟩

/-- What a poll makes of a client whose backlog is `ms` and from which `rs` can be read: messages
are handled in the order of the backlog and then of the stream, and what is not handled is still
there in that order. -/
structure Polled (ms : List Message) (rs : List Reading)
    (result : Except Error (Option Invocation)) (c c' : Client) (taken : List Reading)
    (handled : List Message) : Prop where
  reads : rs = taken ++ c'.incoming
  order : ms ++ messagesOf taken = handled ++ c'.backlog
  handles : Handles handled result.toOption.join c c'
  /-- Without a call, a poll ends at an idle moment. -/
  idle : result = .ok none → c'.backlog = [] ∧ .idle ∈ taken
  /-- With an error, a poll ends at a failure or at the end of the stream. -/
  failed : ∀ e, result = .error e → c'.backlog = [] ∧ (c'.incoming = [] ∨ .failed e ∈ taken)

/-- The first message of the backlog is handled. -/
theorem Polled.cons (h : Polled ms rs result (c.send (answerOf m).toList) c' taken handled)
    (hm : callOf m = none) : Polled (m :: ms) rs result c c' taken (m :: handled) where
  reads := h.reads
  order := congrArg (m :: ·) h.order
  handles := h.handles.cons hm
  idle := h.idle
  failed := h.failed

/-- With no backlog, the first message that is read is handled. Only then is it the next in the
order of both. -/
theorem Polled.read (h : Polled [] rs result (c.send (answerOf m).toList) c' taken handled)
    (hm : callOf m = none) :
    Polled [] (.message m :: rs) result c c' (.message m :: taken) (m :: handled) where
  reads := congrArg (.message m :: ·) h.reads
  order := congrArg (m :: ·) h.order
  handles := h.handles.cons hm
  idle hresult := (h.idle hresult).imp_right (List.mem_cons_of_mem _)
  failed e hresult := (h.failed e hresult).imp_right fun hend =>
    hend.imp_right (List.mem_cons_of_mem _)

theorem pollIncoming_of_pass (hm : callOf m = none) (c : Client) (rs : List Reading) :
    pollIncoming c (.message m :: rs) = pollIncoming (c.send (answerOf m).toList) rs := by
  rw [pollIncoming, answerOf]
  cases hreact : react m with
  | call call => rw [callOf, hreact] at hm; cases hm
  | answer a => rfl
  | skip => simp only [Option.toList_none, send, List.append_nil]

theorem pollBacklog_of_pass (hm : callOf m = none) (c : Client) (ms : List Message) :
    pollBacklog c (m :: ms) = pollBacklog (c.send (answerOf m).toList) ms := by
  rw [pollBacklog, answerOf]
  cases hreact : react m with
  | call call => rw [callOf, hreact] at hm; cases hm
  | answer a => rfl
  | skip => simp only [Option.toList_none, send, List.append_nil]

/-- A poll of the stream. By induction over what can be read; the backlog is empty all the time, so
that no message of it is overtaken. -/
theorem polled_pollIncoming (c : Client) (hbacklog : c.backlog = []) (rs : List Reading) :
    ∃ taken handled,
      Polled [] rs (pollIncoming c rs).1 c (pollIncoming c rs).2 taken handled := by
  induction rs generalizing c with
  | nil =>
      refine ⟨[], [], rfl, hbacklog.symm, .nil rfl, nofun, ?_⟩
      exact fun _ _ => ⟨hbacklog, .inl rfl⟩
  | cons r rest ih =>
      cases r with
      | idle =>
          refine ⟨[.idle], [], rfl, hbacklog.symm, .nil rfl, ?_, nofun⟩
          exact fun _ => ⟨hbacklog, List.mem_singleton_self _⟩
      | failed e =>
          refine ⟨[.failed e], [], rfl, hbacklog.symm, .nil rfl, nofun, ?_⟩
          rintro e' ⟨⟩
          exact ⟨hbacklog, .inr (List.mem_singleton_self _)⟩
      | message m =>
          cases hm : callOf m with
          | none =>
              obtain ⟨taken, handled, h⟩ := ih (c.send (answerOf m).toList) hbacklog
              rw [pollIncoming_of_pass hm]
              exact ⟨_, _, h.read hm⟩
          | some call =>
              have hpoll : pollIncoming c (.message m :: rest) =
                  (.ok (some call), { c with incoming := rest }) := by
                rw [pollIncoming, react_of_callOf hm]
              rw [hpoll]
              refine ⟨[.message m], [m], rfl, ?_, .call rfl hm, nofun, nofun⟩
              exact congrArg (m :: ·) hbacklog.symm

/-- A poll of the backlog, which goes on with the stream when there is no call in it. By induction
over the backlog. -/
theorem polled_pollBacklog (c : Client) (ms : List Message) :
    ∃ taken handled,
      Polled ms c.incoming (pollBacklog c ms).1 c (pollBacklog c ms).2 taken handled := by
  induction ms generalizing c with
  | nil =>
      -- The backlog has been handled, and the stream is next.
      obtain ⟨taken, handled, h⟩ := polled_pollIncoming { c with backlog := [] } rfl c.incoming
      exact ⟨taken, handled, h.reads, h.order, ⟨h.handles.sent, h.handles.calls, h.handles.last⟩,
        h.idle, h.failed⟩
  | cons m rest ih =>
      cases hm : callOf m with
      | none =>
          obtain ⟨taken, handled, h⟩ := ih (c.send (answerOf m).toList)
          rw [pollBacklog_of_pass hm]
          exact ⟨_, _, h.cons hm⟩
      | some call =>
          have hpoll : pollBacklog c (m :: rest) =
              (.ok (some call), { c with backlog := rest }) := by
            rw [pollBacklog, react_of_callOf hm]
          rw [hpoll]
          exact ⟨[], [m], rfl, List.append_nil _, .call rfl hm, nofun, nofun⟩

/-- A poll handles the backlog, then what it reads. -/
theorem polled_poll (c : Client) :
    ∃ taken handled, Polled c.backlog c.incoming c.poll.1 c c.poll.2 taken handled :=
  polled_pollBacklog c c.backlog

/-! ### Any use of a client -/

/-- What a program does with a connected client. -/
inductive Use where
  | addObject (path : String) (methods : List String)
  | sendEvent (id : String) (data : Json)
  | poll

/-- One use of a client: the call that it hands out, if any, and what becomes of the client. Whether
a request succeeds makes no difference here. -/
def perform : Use → Client → List Invocation × Client
  | .addObject path methods, c => ([], (c.addObject path methods).2)
  | .sendEvent id data, c => ([], (c.sendEvent id data).2)
  | .poll, c => (c.poll.1.toOption.join.toList, c.poll.2)

/-- One use after another: all calls that are handed out, and what becomes of the client. -/
def performAll : List Use → Client → List Invocation × Client
  | [], c => ([], c)
  | use :: rest, c =>
    let (calls, c) := perform use c
    let (more, c) := performAll rest c
    (calls ++ more, c)

/-- What uses of a client make of it: of the messages that were taken some were put behind the
backlog, every call among them; what was handled came from the front of the backlog; the calls that
were handed out are the handled ones that can be read, the statuses that were sent reject the
others.

For a poll what is kept is what was read: it counts as put behind the backlog and handled from
there. -/
structure Performed (calls : List Invocation) (c c' : Client) (taken : List Reading)
    (kept handled : List Message) : Prop where
  reads : c.incoming = taken ++ c'.incoming
  sublist : kept.Sublist (messagesOf taken)
  invokes : Bus.invokes kept = Bus.invokes (messagesOf taken)
  order : c.backlog ++ kept = handled ++ c'.backlog
  calls : calls = (Bus.invokes handled).filterMap readable?
  rejected : ∃ out, c'.sent = c.sent ++ out ∧
    List.Forall₂ (Concludes 2) (unreadable handled) (out.filter (·.kind = .status))

theorem forall₂_rejection (ms : List Message) :
    List.Forall₂ (Concludes 2) ms (ms.map rejection) := by
  rw [List.forall₂_map_right_iff, List.forall₂_same]
  exact fun m _ => concludes_rejection m

/-- A request hands out no call. What it sends is no status, so that nothing is rejected by it. -/
theorem performed_request (kind : Kind) (hkind : kind ≠ .status) (peer : UInt32)
    (items : List Item) (c : Client) :
    ∃ taken kept, Performed [] c (c.request kind peer items).2 taken kept [] := by
  obtain ⟨taken, h⟩ := asked_request kind peer items c
  refine ⟨taken, _, h.reads, List.filter_sublist, ?_, h.keeps.symm, rfl, ?_⟩
  · -- A call is neither data nor a status, so that it belongs to no answer.
    unfold Bus.invokes
    rw [List.filter_filter]
    refine List.filter_congr fun m _ => ?_
    by_cases hinvoke : m.kind = .invoke <;> simp [answers, hinvoke]
  · have hstatus : ¬ (Message.of kind (c.seq + 1) peer items).kind = .status := hkind
    refine ⟨[.of kind (c.seq + 1) peer items], rfl, ?_⟩
    rw [List.filter_cons_of_neg (by simpa using hstatus)]
    exact .nil

theorem performed_poll (c : Client) :
    ∃ taken kept handled,
      Performed c.poll.1.toOption.join.toList c c.poll.2 taken kept handled := by
  obtain ⟨taken, handled, h⟩ := polled_poll c
  refine ⟨taken, messagesOf taken, handled, h.reads, List.Sublist.refl _, rfl, h.order, ?_, ?_⟩
  · rw [← h.handles.calls, filterMap_callOf]
  · refine ⟨_, h.handles.sent, ?_⟩
    rw [filter_filterMap_answerOf]
    exact forall₂_rejection _

/-- Registering an object leaves a client as the request does. -/
theorem addObject_client (path : String) (methods : List String) (c : Client) :
    (c.addObject path methods).2 = (c.request .addObject 0
      [.text pathId path, .nested signatureId (methods.map signature)]).2 := by
  unfold addObject
  split
  · rename_i hrequest
    rw [hrequest]
  · rename_i hrequest
    rw [hrequest]
    split <;> rfl

/-- Sending an event leaves a client as the request does. -/
theorem sendEvent_client (id : String) (data : Json) (c : Client) :
    (c.sendEvent id data).2 = (c.request .invoke eventObject (eventItems id data)).2 := by
  unfold sendEvent
  split
  all_goals
    rename_i hrequest
    rw [hrequest]

theorem performed_perform (use : Use) (c : Client) :
    ∃ taken kept handled, Performed (perform use c).1 c (perform use c).2 taken kept handled := by
  cases use with
  | addObject path methods =>
      obtain ⟨taken, kept, h⟩ := performed_request .addObject (by decide) 0
        [.text pathId path, .nested signatureId (methods.map signature)] c
      rw [← addObject_client] at h
      exact ⟨taken, kept, [], h⟩
  | sendEvent id data =>
      obtain ⟨taken, kept, h⟩ := performed_request .invoke (by decide) eventObject
        (eventItems id data) c
      rw [← sendEvent_client] at h
      exact ⟨taken, kept, [], h⟩
  | poll => exact performed_poll c

theorem Performed.refl (c : Client) : Performed [] c c [] [] [] where
  reads := rfl
  sublist := List.Sublist.refl _
  invokes := rfl
  order := List.append_nil _
  calls := rfl
  rejected := ⟨[], (List.append_nil _).symm, .nil⟩

/-- What came first stays in front: of the calls, of the messages that were kept and of those that
were handled. A call that was kept in the first part may be handled in the second. -/
theorem Performed.trans {calls₁ calls₂ : List Invocation} {c₁ c₂ c₃ : Client}
    {taken₁ taken₂ : List Reading} {kept₁ kept₂ handled₁ handled₂ : List Message}
    (h₁ : Performed calls₁ c₁ c₂ taken₁ kept₁ handled₁)
    (h₂ : Performed calls₂ c₂ c₃ taken₂ kept₂ handled₂) :
    Performed (calls₁ ++ calls₂) c₁ c₃ (taken₁ ++ taken₂) (kept₁ ++ kept₂)
      (handled₁ ++ handled₂) where
  reads := by rw [h₁.reads, h₂.reads, List.append_assoc]
  sublist := by
    rw [messagesOf_append]
    exact h₁.sublist.append h₂.sublist
  invokes := by rw [messagesOf_append, invokes_append, invokes_append, h₁.invokes, h₂.invokes]
  order := by
    -- What the first part left in the backlog is in front of what the second puts behind it.
    rw [← List.append_assoc, h₁.order, List.append_assoc, h₂.order, List.append_assoc]
  calls := by rw [h₁.calls, h₂.calls, invokes_append, List.filterMap_append]
  rejected := by
    obtain ⟨out₁, hsent₁, hout₁⟩ := h₁.rejected
    obtain ⟨out₂, hsent₂, hout₂⟩ := h₂.rejected
    refine ⟨out₁ ++ out₂, by rw [hsent₂, hsent₁, List.append_assoc], ?_⟩
    unfold unreadable
    rw [invokes_append, List.filter_append, List.filter_append]
    exact List.rel_append hout₁ hout₂

/-- Uses one after another are described by `Performed`, by induction over them. -/
theorem performed_performAll (uses : List Use) (c : Client) :
    ∃ taken kept handled,
      Performed (performAll uses c).1 c (performAll uses c).2 taken kept handled := by
  induction uses generalizing c with
  | nil => exact ⟨[], [], [], .refl c⟩
  | cons use rest ih =>
      obtain ⟨taken₁, kept₁, handled₁, h₁⟩ := performed_perform use c
      obtain ⟨taken₂, kept₂, handled₂, h₂⟩ := ih (perform use c).2
      exact ⟨_, _, _, h₁.trans h₂⟩

/-- **Requests keep calls.** Whatever comes over a connection, and in whichever order a client sends
requests and polls:

* a request takes the messages of its own answer, puts all others behind the backlog in their order,
  however it ends, and gives the data before its status if that is 0;
* a poll takes from the front of the backlog before it takes what is newer;
* so calls are handed out in the order in which they came, each once, or rejected if they cannot be
  read; those that are neither are in the backlog, behind them. -/
theorem requests_keep_calls (c : Client) :
    (∀ kind peer items, ∃ taken,
      Asked (c.seq + 1) (c.request kind peer items).1 c (c.request kind peer items).2 taken) ∧
    (∃ taken handled, Polled c.backlog c.incoming c.poll.1 c c.poll.2 taken handled) ∧
    ∀ uses, ∃ taken kept handled,
      Performed (performAll uses c).1 c (performAll uses c).2 taken kept handled ∧
      invokes c.backlog ++ invokes (messagesOf taken) =
        invokes handled ++ invokes (performAll uses c).2.backlog := by
  refine ⟨fun kind peer items => asked_request kind peer items c, polled_poll c, fun uses => ?_⟩
  obtain ⟨taken, kept, handled, h⟩ := performed_performAll uses c
  refine ⟨taken, kept, handled, h, ?_⟩
  rw [← h.invokes, ← invokes_append, h.order, invokes_append]

end Client
end Switchyard.Bus
