import Mathlib.Data.List.Infix
import Switchyard.Notify.Socket

/-!
# Switchyard.Proofs.Notify.Socket

**A connection holds whole frames, and one broken one at most, at its end** (`frames_stay_whole`).
Whatever the other side does during each call — refuse, fail, take a part of the bytes, fail to
flush — the bytes on a connection are the frames of the notifications that were delivered over it,
followed by a first part of the frame that failed there, if one did; after that failure the
connection is not written to again.

* `Frame.write_cases` — an attempt to write a frame passes on all of it, or fails after a part.
* `delivered` — what one call does to the connections (`Delivered`), one constructor for each way
  it can go. Every other statement is read off this list.
* `Kept` — the invariant: connections that were given up hold whole frames and a part of one at
  most, the connection there is holds whole frames only.

A call has an outcome (`Delivered`), a place among the connections if it sends anything, and leaves
a notifier; all that is proved of calls is proved of these five outcomes. `Kept` is the invariant:
the connections that were given up hold whole frames and a part of one at most, the one there is
holds whole frames only, and those that are still to come were not used. Connections are counted by
the order in which they were opened, so the place of the one there is, is the number of those given
up.
-/

namespace Switchyard

/-! ### Writing one frame -/

namespace Stream.Sink

/-- All bytes are passed on, or a first part of them. -/
theorem writeAll_cases (sink : Sink) (s : Octets) :
    (∃ left, sink.writeAll s = (.ok (), { sink with room := left, written := sink.written ++ s })) ∨
      ∃ left part, sink.writeAll s = (.error sink.fullError,
        { sink with room := left, written := sink.written ++ part }) ∧ part <+: s := by
  cases hroom : sink.room with
  | none =>
      refine .inl ⟨none, ?_⟩
      simp only [writeAll, hroom]
  | some room =>
      by_cases hall : (s.take room).length = s.length
      · have htake : s.take room = s := List.IsPrefix.eq_of_length (List.take_prefix room s) hall
        refine .inl ⟨some (room - s.length), ?_⟩
        simp only [writeAll, hroom, htake, if_true]
      · refine .inr ⟨some (room - (s.take room).length), s.take room, ?_, List.take_prefix _ _⟩
        simp only [writeAll, hroom, if_neg hall]

end Stream.Sink

namespace Frame

/-- A frame is passed on whole, or the attempt fails after a first part of it, which may be all of
it if flushing fails. -/
theorem write_cases (payload : Octets) (sink : Stream.Sink) :
    (∃ left, write payload sink = (.ok (), left) ∧
        left.written = sink.written ++ encode payload) ∨
      ∃ e left part, write payload sink = (.error e, left) ∧
        left.written = sink.written ++ part ∧ part <+: encode payload := by
  unfold write
  by_cases hlong : 0x100000000 ≤ payload.length
  · rw [if_pos hlong]
    exact .inr ⟨_, sink, [], rfl, (List.append_nil _).symm, List.nil_prefix⟩
  · rw [if_neg hlong]
    rcases sink.writeAll_cases (header payload) with ⟨left, hheader⟩ | ⟨left, part, hheader, hpart⟩
    · rw [hheader]
      dsimp only
      rcases Stream.Sink.writeAll_cases
          { sink with room := left, written := sink.written ++ header payload } payload with
        ⟨left', hpayload⟩ | ⟨left', part, hpayload, hpart⟩
      · rw [hpayload]
        dsimp only
        cases hflush : Stream.Sink.flush _ with
        | ok _ => exact .inl ⟨_, rfl, List.append_assoc _ _ _⟩
        | error e => exact .inr ⟨_, _, encode payload, rfl, List.append_assoc _ _ _,
            List.prefix_refl _⟩
      · rw [hpayload]
        exact .inr ⟨_, _, header payload ++ part, rfl, List.append_assoc _ _ _,
          List.prefix_append_right_inj _ |>.mpr hpart⟩
    · rw [hheader]
      exact .inr ⟨_, _, part, rfl, rfl, hpart.trans (List.prefix_append _ _)⟩

end Frame

namespace Notify

open Route

/-! ### Calls -/

/-- A call of the notifier, and what the other side does during it. -/
structure Call where
  notice : Notice
  peer : Peer

/-- A call, what it found, what it answered and what it left. -/
structure Record where
  call : Call
  before : SocketNotifier
  result : Except Error Unit
  after : SocketNotifier

namespace Record

/-- The frame that the call is to send; a reset sends none. -/
def frame (r : Record) : Octets :=
  match r.call.notice with
  | .notify e => Frame.encode e.octets
  | .reset => []

/-- The place of the connection that the call sends its frame over: the one there is, or the one it
opens. -/
def line? (r : Record) : Option Nat :=
  match r.call.notice, r.before.current, r.call.peer.dial with
  | .notify _, some _, _ => some r.before.past.length
  | .notify _, none, .ok () => some r.before.past.length
  | .notify _, none, .error _ => none
  | .reset, _, _ => none

end Record

namespace SocketNotifier

/-- Makes a call. -/
def record (n : SocketNotifier) (c : Call) : Record :=
  ⟨c, n, (n.deliver c.peer c.notice).1, (n.deliver c.peer c.notice).2⟩

/-- Makes calls one after another. -/
def run : SocketNotifier → List Call → List Record × SocketNotifier
  | n, [] => ([], n)
  | n, c :: rest =>
    let (records, last) := run (n.record c).after rest
    (n.record c :: records, last)

theorem run_concat (n : SocketNotifier) (calls : List Call) (c : Call) :
    n.run (calls ++ [c]) =
      ((n.run calls).1 ++ [(n.run calls).2.record c], ((n.run calls).2.record c).after) := by
  induction calls generalizing n with
  | nil => rfl
  | cons d rest ih =>
      rw [List.cons_append, run, ih, run]
      rfl

theorem mem_run {n : SocketNotifier} {calls : List Call} {r : Record}
    (h : r ∈ (n.run calls).1) : ∃ m c, r = record m c := by
  induction calls generalizing n with
  | nil => simp [run] at h
  | cons c rest ih =>
      rw [run] at h
      rcases List.mem_cons.mp h with rfl | hrest
      · exact ⟨n, c, rfl⟩
      · exact ih hrest

end SocketNotifier

/-! ### What one call does -/

/-- What becomes of a call: what it answers, over which connection it sends, and which notifier it
leaves. -/
inductive Delivered (n : SocketNotifier) (c : Call) :
    Except Error Unit → Option Nat → SocketNotifier → Prop where
  /-- The frame is sent, over the connection there is or a new one. -/
  | sent {e : Envelope} (hnotice : c.notice = .notify e)
      (hopen : n.current.isSome ∨ c.peer.dial = .ok ()) :
      Delivered n c (.ok ()) (some n.past.length)
        { n with current := some (n.current.getD [] ++ Frame.encode e.octets) }
  /-- The attempt fails after a part of the frame, and the connection is given up. -/
  | broken {e : Envelope} (hnotice : c.notice = .notify e)
      (hopen : n.current.isSome ∨ c.peer.dial = .ok ()) (cause : Error) {part : Octets}
      (hpart : part <+: Frame.encode e.octets) :
      Delivered n c (.error cause) (some n.past.length)
        { n with current := none, past := n.past ++ [n.current.getD [] ++ part] }
  /-- Nobody listens. -/
  | absent {e : Envelope} {cause : IoError} (hnotice : c.notice = .notify e)
      (hcurrent : n.current = none) (hdial : c.peer.dial = .error cause)
      (habsence : isAbsence cause = true) : Delivered n c (.ok ()) none n
  /-- No connection can be opened. -/
  | unreachable {e : Envelope} {cause : IoError} (hnotice : c.notice = .notify e)
      (hcurrent : n.current = none) (hdial : c.peer.dial = .error cause)
      (habsence : isAbsence cause = false) :
      Delivered n c (.error (.connect n.endpoint.render cause)) none n
  /-- The connection is given up on request. -/
  | reset (hnotice : c.notice = .reset) : Delivered n c (.ok ()) none n.reset

theorem delivered_writeTo {n : SocketNotifier} {c : Call} {e : Envelope}
    (hnotice : c.notice = .notify e) (hopen : n.current.isSome ∨ c.peer.dial = .ok ()) :
    Delivered n c (n.writeTo c.peer e (n.current.getD [])).1 (some n.past.length)
      (n.writeTo c.peer e (n.current.getD [])).2 := by
  unfold SocketNotifier.writeTo
  rcases Frame.write_cases e.octets
      ⟨c.peer.room, c.peer.fullError, c.peer.flushError, n.current.getD []⟩ with
    ⟨sink, hwrite, hwritten⟩ | ⟨cause, sink, part, hwrite, hwritten, hpart⟩
  · rw [hwrite]
    dsimp only
    rw [hwritten]
    exact .sent hnotice hopen
  · rw [hwrite]
    dsimp only
    rw [SocketNotifier.reset, hwritten]
    exact .broken hnotice hopen _ hpart

/-- **Every call goes one of five ways.** -/
theorem delivered (n : SocketNotifier) (c : Call) :
    Delivered n c (n.record c).result (n.record c).line? (n.record c).after := by
  obtain ⟨notice, peer⟩ := c
  cases notice with
  | reset => exact .reset rfl
  | notify e =>
      cases hcurrent : n.current with
      | some written =>
          have hopen : n.current.isSome ∨ peer.dial = .ok () := .inl (by simp [hcurrent])
          have hwrite := delivered_writeTo (c := ⟨.notify e, peer⟩) rfl hopen
          simpa [SocketNotifier.record, SocketNotifier.deliver, SocketNotifier.notify,
            Record.line?, hcurrent] using hwrite
      | none =>
          cases hdial : peer.dial with
          | ok _ =>
              have hwrite := delivered_writeTo (n := n) (c := ⟨.notify e, peer⟩) rfl (.inr hdial)
              simpa [SocketNotifier.record, SocketNotifier.deliver, SocketNotifier.notify,
                Record.line?, hcurrent, hdial] using hwrite
          | error cause =>
              cases habsence : isAbsence cause with
              | true =>
                  have h : Delivered n ⟨.notify e, peer⟩ (.ok ()) none n :=
                    .absent rfl hcurrent hdial habsence
                  simpa [SocketNotifier.record, SocketNotifier.deliver, SocketNotifier.notify,
                    Record.line?, hcurrent, hdial, habsence] using h
              | false =>
                  have h : Delivered n ⟨.notify e, peer⟩ _ none n :=
                    .unreachable rfl hcurrent hdial habsence
                  simpa [SocketNotifier.record, SocketNotifier.deliver, SocketNotifier.notify,
                    Record.line?, hcurrent, hdial, habsence] using h

/-! ### What a connection holds -/

/-- The calls that send over the connection in a place, in the order in which they were made. -/
def uses (k : Nat) (records : List Record) : List Record :=
  records.filter fun r => r.line? = some k

/-- The frames of calls that all succeeded, and nothing else. This is what a connection holds while
it may be used again. -/
def Whole (calls : List Record) (s : Octets) : Prop :=
  (∀ r ∈ calls, r.result = .ok ()) ∧ s = calls.flatMap Record.frame

/-- The frames of calls that succeeded, and then at most one call that failed and the part of its
frame that was passed on. Nothing comes after that part. -/
def Holds (calls : List Record) (s : Octets) : Prop :=
  ∃ done broken part, calls = done ++ Option.toList broken ∧
    (∀ r ∈ done, r.result = .ok ()) ∧ (∀ r ∈ broken, r.result ≠ .ok ()) ∧
    s = done.flatMap Record.frame ++ part ∧ part <+: broken.toList.flatMap Record.frame

section Holding

variable {calls : List Record} {s part : Octets} {r : Record}

theorem Whole.holds (h : Whole calls s) : Holds calls s := by
  refine ⟨calls, none, [], ?_, h.1, by simp, ?_, List.nil_prefix⟩
  · exact (List.append_nil calls).symm
  · rw [h.2, List.append_nil]

theorem Whole.sent (h : Whole calls s) (hr : r.result = .ok ()) :
    Whole (calls ++ [r]) (s ++ r.frame) := by
  refine ⟨?_, ?_⟩
  · intro q hq
    rcases List.mem_append.mp hq with hq | hq
    · exact h.1 q hq
    · rw [List.mem_singleton.mp hq, hr]
  · rw [h.2, List.flatMap_append, List.flatMap_singleton]

theorem Whole.broken (h : Whole calls s) (hr : r.result ≠ .ok ()) (hpart : part <+: r.frame) :
    Holds (calls ++ [r]) (s ++ part) := by
  refine ⟨calls, some r, part, rfl, h.1, by simpa using hr, by rw [h.2], ?_⟩
  simpa using hpart

end Holding

/-- What is on the connections agrees with the calls that were made. Only the connection there is
can still change, and it is the one with whole frames. -/
structure Kept (records : List Record) (n : SocketNotifier) : Prop where
  /-- A connection that was given up holds whole frames and a part of one at most. -/
  past : ∀ k s, n.past[k]? = some s → Holds (uses k records) s
  /-- The connection there is holds whole frames. -/
  current : Whole (uses n.past.length records) (n.current.getD [])
  /-- A connection that is still to come was not sent over. -/
  fresh : ∀ k, n.past.length < k → uses k records = []

section Keeping

variable {records : List Record} {n : SocketNotifier} {r : Record} {k : Nat}

theorem uses_concat_self (h : r.line? = some k) : uses k (records ++ [r]) = uses k records ++ [r] := by
  simp [uses, h]

theorem uses_concat_of_ne (h : r.line? ≠ some k) : uses k (records ++ [r]) = uses k records := by
  simp [uses, h]

/-- A call sends over no connection but the one there is. -/
theorem uses_concat_of_line (hr : r.line? = none ∨ r.line? = some n.past.length)
    (hk : k ≠ n.past.length) : uses k (records ++ [r]) = uses k records := by
  refine uses_concat_of_ne ?_
  rcases hr with hr | hr
  · simp [hr]
  · simpa [hr] using hk.symm

theorem Kept.past_concat (h : Kept records n)
    (hr : r.line? = none ∨ r.line? = some n.past.length) (k : Nat) (s : Octets)
    (hs : n.past[k]? = some s) : Holds (uses k (records ++ [r])) s := by
  have hlt : k < n.past.length := (List.getElem?_eq_some_iff.mp hs).1
  rw [uses_concat_of_line hr (Nat.ne_of_lt hlt)]
  exact h.past k s hs

theorem Kept.fresh_concat (h : Kept records n)
    (hr : r.line? = none ∨ r.line? = some n.past.length) (k : Nat) (hk : n.past.length < k) :
    uses k (records ++ [r]) = [] := by
  rw [uses_concat_of_line hr (Nat.ne_of_gt hk)]
  exact h.fresh k hk

/-- The connection there is becomes one that was given up. It takes the next place, and the place of
the one there is moves on by one. -/
theorem kept_giveUp (hpast : ∀ k s, n.past[k]? = some s → Holds (uses k records) s) {s : Octets}
    (hlast : Holds (uses n.past.length records) s)
    (hfresh : ∀ k, n.past.length < k → uses k records = []) :
    Kept records { n with current := none, past := n.past ++ [s] } := by
  refine ⟨?_, ?_, ?_⟩
  · intro k t ht
    rcases Nat.lt_trichotomy k n.past.length with hlt | rfl | hgt
    · rw [List.getElem?_append_left hlt] at ht
      exact hpast k t ht
    · rw [List.getElem?_concat_length] at ht
      cases ht
      exact hlast
    · have hnone : (n.past ++ [s])[k]? = none := by
        simp
        omega
      rw [hnone] at ht
      cases ht
  · have hnext := hfresh (n.past.length + 1) (Nat.lt_succ_self _)
    simp [Whole, hnext]
  · intro k hk
    refine hfresh k ?_
    simp at hk
    omega

/-- A call that sends nothing leaves the connections as they are. -/
theorem Kept.idle (h : Kept records n) (hr : r.line? = none) : Kept (records ++ [r]) n := by
  refine ⟨h.past_concat (.inl hr), ?_, h.fresh_concat (.inl hr)⟩
  rw [uses_concat_of_ne (by simp [hr])]
  exact h.current

theorem Kept.reset (h : Kept records n) (hr : r.line? = none) : Kept (records ++ [r]) n.reset := by
  cases hcurrent : n.current with
  | none =>
      have hreset : n.reset = n := by
        obtain ⟨endpoint, current, past⟩ := n
        cases hcurrent
        simp [SocketNotifier.reset]
      rw [hreset]
      exact h.idle hr
  | some written =>
      have hreset : n.reset = { n with current := none, past := n.past ++ [written] } := by
        simp [SocketNotifier.reset, hcurrent]
      have hwhole := (h.idle hr).current
      rw [hcurrent] at hwhole
      rw [hreset]
      exact kept_giveUp (h.past_concat (.inl hr)) hwhole.holds (h.fresh_concat (.inl hr))

/-- **Every call keeps the agreement.** One case for each outcome; only two of them change what is
on a connection. -/
theorem Kept.step (h : Kept records n) (c : Call) :
    Kept (records ++ [n.record c]) (n.record c).after := by
  have hd := delivered n c
  have hcall : (n.record c).call = c := rfl
  generalize n.record c = r at hd hcall ⊢
  -- The record is only looked at through these equations from here on.
  have hframe : ∀ e, c.notice = .notify e → r.frame = Frame.encode e.octets := by
    intro e he
    simp [Record.frame, hcall, he]
  generalize hline : r.line? = line at hd
  generalize hresult : r.result = result at hd
  generalize r.after = m at hd ⊢
  cases hd with
  | sent hnotice hopen =>
      refine ⟨h.past_concat (.inr hline), ?_, h.fresh_concat (.inr hline)⟩
      rw [uses_concat_self hline, ← hframe _ hnotice]
      exact h.current.sent hresult
  | broken hnotice hopen cause hpart =>
      refine kept_giveUp (h.past_concat (.inr hline)) ?_ (h.fresh_concat (.inr hline))
      rw [uses_concat_self hline]
      rw [← hframe _ hnotice] at hpart
      exact h.current.broken (by simp [hresult]) hpart
  | absent => exact h.idle hline
  | unreachable => exact h.idle hline
  | reset => exact h.reset hline

theorem kept_start (endpoint : Settings.Endpoint) : Kept [] (SocketNotifier.start endpoint) := by
  refine ⟨?_, ?_, ?_⟩
  · intro k s hs
    simp [SocketNotifier.start] at hs
  · simp [Whole, uses, SocketNotifier.start]
  · intro k _
    rfl

/-- The agreement holds after every sequence of calls. -/
theorem kept_run (endpoint : Settings.Endpoint) (calls : List Call) :
    Kept ((SocketNotifier.start endpoint).run calls).1
      ((SocketNotifier.start endpoint).run calls).2 := by
  induction calls using List.reverseRecOn with
  | nil => exact kept_start endpoint
  | append_singleton calls c ih =>
      rw [SocketNotifier.run_concat]
      exact ih.step c

/-- Apart from the connection there is, what was written is what the connections given up hold. -/
theorem connections_of_ne (n : SocketNotifier) {k : Nat} (hk : k ≠ n.past.length) :
    n.connections[k]? = n.past[k]? := by
  unfold SocketNotifier.connections
  rcases Nat.lt_or_gt_of_ne hk with hlt | hgt
  · exact List.getElem?_append_left hlt
  · have hle := Option.length_toList_le (o := n.current)
    rw [List.getElem?_eq_none (Nat.le_of_lt hgt), List.getElem?_eq_none]
    rw [List.length_append]
    omega

/-- What the connections hold, those given up and the one there is. -/
theorem Kept.holds (h : Kept records n) (k : Nat) :
    Holds (uses k records) ((n.connections[k]?).getD []) := by
  by_cases hk : k = n.past.length
  · subst hk
    have hcurrent : (n.connections[n.past.length]?).getD [] = n.current.getD [] := by
      unfold SocketNotifier.connections
      rw [List.getElem?_append_right (Nat.le_refl _), Nat.sub_self]
      cases n.current with
      | none => rfl
      | some written => rfl
    rw [hcurrent]
    exact h.current.holds
  · rw [connections_of_ne n hk]
    cases hs : n.past[k]? with
    | some s => exact h.past k s hs
    | none =>
        have hle : n.past.length ≤ k := List.getElem?_eq_none_iff.mp hs
        rw [h.fresh k (Nat.lt_of_le_of_ne hle (Ne.symm hk))]
        exact Whole.holds ⟨by simp, rfl⟩

end Keeping

/-! ### One call and one connection -/

section Calls

variable {n m : SocketNotifier} {c : Call} {result : Except Error Unit} {line : Option Nat}

/-- A call leaves all connections alone but the one it sends over, as one there was or as the next
one. -/
theorem Delivered.connections_of_ne (h : Delivered n c result line m) {k : Nat}
    (hk : line ≠ some k) : m.connections[k]? = n.connections[k]? := by
  cases h with
  | sent hnotice hopen =>
      have hne : k ≠ n.past.length := fun heq => hk (by rw [heq])
      rw [Notify.connections_of_ne n hne]
      exact Notify.connections_of_ne { n with current := some _ } hne
  | broken hnotice hopen cause hpart =>
      have hne : k ≠ n.past.length := fun heq => hk (by rw [heq])
      rw [Notify.connections_of_ne n hne]
      simp only [SocketNotifier.connections, Option.toList_none, List.append_nil]
      rcases Nat.lt_or_gt_of_ne hne with hlt | hgt
      · exact List.getElem?_append_left hlt
      · rw [List.getElem?_eq_none (Nat.le_of_lt hgt), List.getElem?_eq_none]
        simp
        omega
  | absent => rfl
  | unreachable => rfl
  | reset => simp [SocketNotifier.connections, SocketNotifier.reset]

theorem encode_ne_nil (payload : Octets) : Frame.encode payload ≠ [] := by
  simp [Frame.encode, Frame.header, Frame.headerSize, Octets.littleEndian]

theorem isAbsence_iff (cause : IoError) :
    isAbsence cause = true ↔ cause = .notFound ∨ cause = .connectionRefused := by
  simp [isAbsence]

/-- A notification succeeds without a byte written exactly when there is no connection and nobody
listens. The frame of a notification is never empty, so that every other success writes something.
-/
theorem Delivered.silent_iff (h : Delivered n c result line m) {e : Envelope}
    (he : c.notice = .notify e) :
    (result = .ok () ∧ m.connections = n.connections) ↔
      n.current = none ∧ ∃ cause, c.peer.dial = .error cause ∧
        (cause = .notFound ∨ cause = .connectionRefused) := by
  cases h with
  | @sent f hnotice hopen =>
      refine iff_of_false ?_ ?_
      · rintro ⟨-, hsame⟩
        have hlast : [n.current.getD [] ++ Frame.encode f.octets] = n.current.toList :=
          List.append_cancel_left hsame
        cases hcurrent : n.current with
        | none => simp [hcurrent] at hlast
        | some written => simp [hcurrent, encode_ne_nil] at hlast
      · rintro ⟨hnone, cause, hdial, -⟩
        simp [hnone, hdial] at hopen
  | broken hnotice hopen cause hpart =>
      refine iff_of_false nofun ?_
      rintro ⟨hnone, cause, hdial, -⟩
      simp [hnone, hdial] at hopen
  | absent hnotice hcurrent hdial habsence =>
      exact iff_of_true ⟨rfl, rfl⟩ ⟨hcurrent, _, hdial, (isAbsence_iff _).mp habsence⟩
  | unreachable hnotice hcurrent hdial habsence =>
      refine iff_of_false nofun ?_
      rintro ⟨-, cause, hcause, hkind⟩
      rw [hdial] at hcause
      cases hcause
      rw [(isAbsence_iff _).mpr hkind] at habsence
      cases habsence
  | reset hnotice =>
      rw [hnotice] at he
      cases he

end Calls

/-- **Frames stay whole.** After every sequence of notifications and resets, whatever the other side
did during each of them, every connection holds the frames of the notifications that succeeded over
it, in their order, and then at most a part of one further frame, whose notification failed and was
the last to be sent over it. A call writes to no connection but the one it is sent over. And a
notification succeeds without a byte written exactly when there was no connection and nobody
listened. -/
theorem frames_stay_whole (endpoint : Settings.Endpoint) (calls : List Call) :
    (∀ k, Holds (uses k ((SocketNotifier.start endpoint).run calls).1)
      ((((SocketNotifier.start endpoint).run calls).2.connections[k]?).getD [])) ∧
    ∀ r ∈ ((SocketNotifier.start endpoint).run calls).1,
      (∀ k, r.line? ≠ some k → r.after.connections[k]? = r.before.connections[k]?) ∧
      ∀ e, r.call.notice = .notify e →
        ((r.result = .ok () ∧ r.after.connections = r.before.connections) ↔
          r.before.current = none ∧ ∃ cause, r.call.peer.dial = .error cause ∧
            (cause = .notFound ∨ cause = .connectionRefused)) := by
  refine ⟨(kept_run endpoint calls).holds, ?_⟩
  intro r hr
  obtain ⟨n, c, rfl⟩ := SocketNotifier.mem_run hr
  have hd := delivered n c
  refine ⟨?_, ?_⟩
  · intro k hk
    exact hd.connections_of_ne hk
  · intro e he
    exact hd.silent_iff he

/-- A frame that breaks off is the last thing on its connection. -/
example :
    let e : Envelope := .notification "m" "a" none
    let calls : List Call := [⟨.notify e, .willing⟩,
      ⟨.notify e, { Peer.willing with room := some 3 }⟩, ⟨.notify e, .willing⟩]
    ((SocketNotifier.start (.tcp "h" 1)).run calls).2.connections =
      [Frame.encode e.octets ++ (Frame.encode e.octets).take 3, Frame.encode e.octets] := by
  decide +kernel

end Notify
end Switchyard
