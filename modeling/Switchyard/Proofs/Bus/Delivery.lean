import Switchyard.Proofs.Bus.Message

/-!
# Switchyard.Proofs.Bus.Delivery

**A delivery is read message by message** (`messages_read_back`). However the bytes of messages are
cut, wherever the reader is interrupted or times out, and wherever the stream ends: after any number
of attempts the reader stands between two messages, and it has returned exactly those that it took
from the stream.

* `Pauses` — the only way to an idle moment is a timeout with no byte of the next message before it
  (`read_eq_none_iff`). A timeout inside a message is waited out.
* `Attempt` — what one attempt can be where messages are to come: an idle moment, the next message,
  or the end of a stream that does not hold the whole of it (`Delivery.attempt`).
* `Reads` — attempts one after another. Each leaves a delivery of the messages that are still to
  come (`Delivery.of_reads`), and they come to the end of the stream (`Delivery.reads_to_end`).

The proof is a step lemma and an induction. `Delivery.attempt` says what one attempt does and that
it leaves less of the source, and `Reads` is closed under it from the front. Nothing is said of the
attempts after the end: a reader that found it does not come back.

A stream may be cut anywhere, so `Delivery` asks that its bytes are a prefix of those that were
written. Then the next message is there as a whole or the stream ends inside of it, and this is
decided by the number of bytes alone.
-/

namespace Switchyard.Bus
namespace Message

variable {m : Message} {ms taken : List Message} {source rest : Stream.Source} {n k : Nat}

/-! ### Idle moments -/

/-- The reader is interrupted any number of times, and then times out. The first source is before
the pause and the second one after it; interruptions are taken with it. -/
inductive Pauses : Stream.Source → Stream.Source → Prop
  | timeout {e : IoError} (h : e = .timedOut ∨ e = .wouldBlock) (rest : Stream.Source) :
      Pauses (.failure e :: rest) rest
  | interrupted {source rest : Stream.Source} (h : Pauses source rest) :
      Pauses (.failure .interrupted :: source) rest

theorem fill_of_pauses (h : Pauses source rest) (hn : n ≠ 0) :
    fill true n source = (.ok none, rest) := by
  induction h with
  | timeout h rest => rcases h with rfl | rfl <;> rw [fill, if_neg hn] <;> rfl
  | interrupted h ih => rw [fill, if_neg hn, ih]

/-- A reader idles only where its source begins with a pause. By induction over the arrivals that
were interruptions. -/
theorem pauses_of_fill (h : fill true n source = (.ok none, rest)) : Pauses source rest := by
  induction source with
  | nil =>
      unfold fill at h
      split at h <;> cases h
  | cons arrival pieces ih =>
      unfold fill at h
      split at h
      · cases h
      cases arrival with
      | failure e =>
          cases e with
          | interrupted => exact .interrupted (ih h)
          | timedOut =>
              cases h
              exact .timeout (.inl rfl) rest
          | wouldBlock =>
              cases h
              exact .timeout (.inr rfl) rest
          | os errno => cases h
          | other text => cases h
      | bytes s =>
          -- A piece brings bytes, as many as are wanted or not, or the end.
          dsimp only at h
          split at h
          · cases h
          split at h
          · split at h <;> cases h
          · cases h

/-- An attempt is idle exactly when a timeout comes before any byte of a message. An attempt that
has read something is never idle, whatever it waits for. -/
theorem read_eq_none_iff : read source = (.ok none, rest) ↔ Pauses source rest := by
  constructor
  · intro h
    unfold read at h
    split at h
    · cases h
    · rename_i hfill
      cases h
      exact pauses_of_fill hfill
    · split at h
      · cases h
      · split at h <;> cases h
  · intro h
    unfold read
    rw [fill_of_pauses h (by decide)]

/-! ### One attempt -/

/-- A stream of the bytes of these messages, in any pieces, with interruptions and timeouts
anywhere, that may end before all of them have come. It is what is left after an attempt, too, with
the messages that are still to come. -/
structure Delivery (ms : List Message) (source : Stream.Source) : Prop where
  fits : ∀ m ∈ ms, m.Fits
  steady : Stream.Steady Waits source
  bytes : Stream.bytesOf source <+: ms.flatMap wire

/-- An attempt to read where these messages are to come. The rules say what was read together with
what is left, and no two of them apply to the same source. -/
inductive Attempt : List Message → Stream.Source → Prop
  /-- Nothing came in time, and nothing is taken. -/
  | idle {ms : List Message} {source rest : Stream.Source} (hpauses : Pauses source rest)
      (hread : read source = (.ok none, rest)) (hafter : Delivery ms rest)
      (hbytes : Stream.bytesOf source = Stream.bytesOf rest) : Attempt ms source
  /-- The next message is returned, and its bytes are taken. -/
  | message {m : Message} {ms : List Message} {source rest : Stream.Source}
      (hread : read source = (.ok (some m.normal), rest)) (hafter : Delivery ms rest)
      (hbytes : Stream.bytesOf source = m.wire ++ Stream.bytesOf rest) : Attempt (m :: ms) source
  /-- The stream ends, before the next message or inside it. -/
  | closed {ms : List Message} {source : Stream.Source} (hread : read source = (.error .closed, []))
      (hshort : ∀ m ∈ ms.head?, (Stream.bytesOf source).length < m.wire.length) : Attempt ms source

/-- What is left of a stream, counted so that every attempt before its end takes some of it. An idle
moment takes an arrival and no byte, a message bytes and perhaps no arrival. -/
def remaining (source : Stream.Source) : Nat :=
  source.length + (Stream.bytesOf source).length

/-- An attempt where the stream ends inside the next message: an idle moment, or the end. If the
header is there, it says how many bytes are missing. -/
theorem idle_or_cut (h : Stream.Steady Waits source) (hm : m.Fits)
    (hbytes : Stream.bytesOf source <+: m.wire)
    (hshort : (Stream.bytesOf source).length < m.wire.length) :
    (∃ rest, read source = (.ok none, rest) ∧ Idles source rest) ∨
      read source = (.error .closed, []) := by
  by_cases hlt : (Stream.bytesOf source).length < headerSize
  · exact idle_or_closed h hlt
  · have hle : headerSize ≤ (Stream.bytesOf source).length := Nat.not_lt.mp hlt
    have hhead : (Stream.bytesOf source).take headerSize = m.header := by
      obtain ⟨behind, hwire⟩ := hbytes
      have htake : (Stream.bytesOf source ++ behind).take headerSize =
          (Stream.bytesOf source).take headerSize := List.take_append_of_le_length hle
      rw [← htake, hwire, wire, List.take_left' (length_header m)]
    refine (idle_or_fill (n := headerSize) h (by decide)).imp ?_ ?_
    · rintro ⟨rest, hfill, hidles⟩
      exact ⟨rest, read_eq_none_iff.mpr (pauses_of_fill hfill), hidles⟩
    · intro hfill
      obtain ⟨inner, hheader, hinner⟩ := fill_of_enough (n := headerSize) h hle
      have hfew : (Stream.bytesOf inner).length < m.body.length := by
        rw [wire, List.length_append, length_header] at hshort
        rw [hinner.bytes, List.length_drop]
        omega
      unfold read
      rw [hfill, hheader, hhead]
      simp only [ofHeader_header hm, fill_of_few hinner.steady hfew]

/-- An idle moment leaves all messages to come. -/
theorem Delivery.idle (h : Delivery ms source) (hidles : Idles source rest)
    (hread : read source = (.ok none, rest)) : Attempt ms source :=
  .idle (read_eq_none_iff.mp hread) hread
    ⟨h.fits, hidles.steady, by rw [hidles.bytes]; exact h.bytes⟩ hidles.bytes.symm

/-- A stream that holds the whole next message holds a delivery of the others behind it, cut perhaps
as it was. -/
theorem Delivery.message (h : Delivery (m :: ms) source) {behind : Octets}
    (hbehind : m.wire ++ behind = Stream.bytesOf source)
    (hleaves : Leaves m.wire.length source rest)
    (hread : read source = (.ok (some m.normal), rest)) : Attempt (m :: ms) source := by
  have hbytes : Stream.bytesOf rest = behind := by
    rw [hleaves.bytes, ← hbehind, List.drop_left]
  have hprefix : m.wire ++ behind <+: m.wire ++ ms.flatMap wire := by
    rw [hbehind]
    exact h.bytes
  refine .message hread ⟨(List.forall_mem_cons.mp h.fits).2, hleaves.steady, ?_⟩ ?_
  · rw [hbytes]
    exact (List.prefix_append_right_inj _).mp hprefix
  · rw [hbytes, hbehind]

theorem remaining_lt_of_idles (h : Idles source rest) : remaining rest < remaining source := by
  have hlength := h.length_lt
  unfold remaining
  rw [h.bytes]
  omega

theorem remaining_lt_of_leaves (h : Leaves n source rest) (hn : 0 < n)
    (hle : n ≤ (Stream.bytesOf source).length) : remaining rest < remaining source := by
  have hlength := h.length_le
  unfold remaining
  rw [h.bytes, List.length_drop]
  omega

/-- An attempt is as `Attempt` says, and takes something if it does not find the end. This is the
step of which everything below is made. -/
theorem Delivery.attempt (h : Delivery ms source) :
    Attempt ms source ∧ ∀ found rest, read source = (.ok found, rest) →
      remaining rest < remaining source := by
  -- Each outcome of the attempt fixes what a later equation about it can say.
  have hidle {rest' : Stream.Source} (hread : read source = (.ok none, rest'))
      (hidles : Idles source rest') : Attempt ms source ∧ ∀ found rest,
        read source = (.ok found, rest) → remaining rest < remaining source := by
    refine ⟨h.idle hidles hread, ?_⟩
    intro found rest hfound
    rw [hread] at hfound
    cases hfound
    exact remaining_lt_of_idles hidles
  have hclosed (hread : read source = (.error .closed, []))
      (hshort : ∀ m ∈ ms.head?, (Stream.bytesOf source).length < m.wire.length) :
      Attempt ms source ∧ ∀ found rest,
        read source = (.ok found, rest) → remaining rest < remaining source := by
    refine ⟨.closed hread hshort, ?_⟩
    intro found rest hfound
    rw [hread] at hfound
    cases hfound
  cases ms with
  | nil =>
      have hbytes : Stream.bytesOf source = [] := List.prefix_nil.mp h.bytes
      rcases idle_or_closed h.steady (by rw [hbytes]; decide) with ⟨rest, hread, hidles⟩ | hread
      · exact hidle hread hidles
      · exact hclosed hread (by simp)
  | cons m ms =>
      have hm : m.Fits := h.fits m List.mem_cons_self
      have hall := h.bytes
      rw [List.flatMap_cons] at hall
      by_cases hle : m.wire.length ≤ (Stream.bytesOf source).length
      · obtain ⟨behind, hbehind⟩ :=
          List.prefix_of_prefix_length_le (List.prefix_append _ _) hall hle
        -- The next message is there as a whole.
        rcases idle_or_read h.steady hm hbehind.symm with
          ⟨rest, hread, hidles⟩ | ⟨rest, hread, hleaves⟩
        · exact hidle hread hidles
        · refine ⟨h.message hbehind hleaves hread, ?_⟩
          intro found rest' hfound
          rw [hread] at hfound
          cases hfound
          exact remaining_lt_of_leaves hleaves (List.length_pos_iff.mpr m.wire_ne_nil) hle
      -- The stream ends before the next message does.
      · have hshort := Nat.not_le.mp hle
        have hcut : Stream.bytesOf source <+: m.wire :=
          List.prefix_of_prefix_length_le hall (List.prefix_append _ _) (Nat.le_of_lt hshort)
        rcases idle_or_cut h.steady hm hcut hshort with ⟨rest, hread, hidles⟩ | hread
        · exact hidle hread hidles
        · exact hclosed hread (by simpa using hshort)

/-- What an idle attempt leaves. -/
theorem Delivery.of_idle (h : Delivery ms source) (hread : read source = (.ok none, rest)) :
    Delivery ms rest ∧ Stream.bytesOf source = Stream.bytesOf rest := by
  cases h.attempt.1 with
  | idle hpauses hread' hafter hbytes =>
      rw [hread] at hread'
      cases hread'
      exact ⟨hafter, hbytes⟩
  | message hread' =>
      rw [hread] at hread'
      cases hread'
  | closed hread' =>
      rw [hread] at hread'
      cases hread'

/-- An attempt that returns a message returns the next one. -/
theorem Delivery.of_message {got : Message} (h : Delivery ms source)
    (hread : read source = (.ok (some got), rest)) :
    ∃ m more, ms = m :: more ∧ got = m.normal ∧ Delivery more rest ∧
      Stream.bytesOf source = m.wire ++ Stream.bytesOf rest := by
  cases h.attempt.1 with
  | idle hpauses hread' =>
      rw [hread] at hread'
      cases hread'
  | message hread' hafter hbytes =>
      rw [hread] at hread'
      cases hread'
      exact ⟨_, _, rfl, rfl, hafter, hbytes⟩
  | closed hread' =>
      rw [hread] at hread'
      cases hread'

/-- Where an attempt finds the end, the next message is not there as a whole. -/
theorem Delivery.short_of_closed (h : Delivery (m :: ms) source)
    (hread : read source = (.error .closed, [])) :
    (Stream.bytesOf source).length < m.wire.length := by
  cases h.attempt.1 with
  | idle hpauses hread' =>
      rw [hread] at hread'
      cases hread'
  | message hread' =>
      rw [hread] at hread'
      cases hread'
  | closed hread' hshort => exact hshort m rfl

/-! ### Attempts in a row -/

/-- Attempts, one after another, that return these messages and leave the rest of the source. -/
inductive Reads : Stream.Source → List Message → Stream.Source → Prop
  | stop (source : Stream.Source) : Reads source [] source
  | idle {source mid rest : Stream.Source} {taken : List Message}
      (h : read source = (.ok none, mid)) (more : Reads mid taken rest) : Reads source taken rest
  | message {source mid rest : Stream.Source} {m : Message} {taken : List Message}
      (h : read source = (.ok (some m), mid)) (more : Reads mid taken rest) :
      Reads source (m :: taken) rest

/-- However many attempts were made, the reader stands between two messages: it returned the ones
before, in order, and all bytes behind them are still to come. By induction over the attempts. -/
theorem Delivery.of_reads (h : Delivery ms source) (hreads : Reads source taken rest) :
    ∃ done more, ms = done ++ more ∧ taken = done.map .normal ∧ Delivery more rest ∧
      Stream.bytesOf source = done.flatMap wire ++ Stream.bytesOf rest := by
  induction hreads generalizing ms with
  | stop source => exact ⟨[], ms, rfl, rfl, h, rfl⟩
  | idle hread more ih =>
      obtain ⟨hafter, hbytes⟩ := h.of_idle hread
      rw [hbytes]
      exact ih hafter
  | message hread more ih =>
      obtain ⟨m, ms, rfl, rfl, hafter, hbytes⟩ := h.of_message hread
      obtain ⟨done, left, rfl, rfl, hleft, hrest⟩ := ih hafter
      refine ⟨m :: done, left, rfl, rfl, hleft, ?_⟩
      rw [hbytes, hrest, List.flatMap_cons, List.append_assoc]

/-- Attempts come to the end of the stream. By induction on what remains of it. -/
theorem Delivery.reads_to_end (h : Delivery ms source) :
    ∃ taken rest, Reads source taken rest ∧ read rest = (.error .closed, []) := by
  induction hsize : remaining source using Nat.strongRecOn generalizing source ms with
  | ind size ih =>
      obtain ⟨hattempt, hsmaller⟩ := h.attempt
      cases hattempt with
      | idle hpauses hread hafter hbytes =>
          obtain ⟨taken, rest, hreads, hend⟩ := ih _ (hsize ▸ hsmaller _ _ hread) hafter rfl
          exact ⟨taken, rest, .idle hread hreads, hend⟩
      | message hread hafter hbytes =>
          obtain ⟨taken, rest, hreads, hend⟩ := ih _ (hsize ▸ hsmaller _ _ hread) hafter rfl
          exact ⟨_ :: taken, rest, .message hread hreads, hend⟩
      | closed hread hshort => exact ⟨[], source, .stop source, hread⟩

/-! ### All messages -/

theorem fits_of_body (h : m.body.length ≤ 1024 * 1024 - 4) : m.Fits := by
  unfold Fits containerLength
  simp only [wordSize, maxLength]
  omega

/-- **Messages are read back.** What is written of these messages, in whatever pieces it comes and
wherever its reader is interrupted or times out, gives these messages in order, each with its kind
as its code tells it, and then the end. If the stream is cut anywhere, attempts come to the end just
so, inside a message too. Up to there every attempt starts between two messages: those before were
returned, and all bytes behind them are still to come. It is idle, or returns the next message, or
finds that the stream does not hold the whole of it. It is idle exactly when a timeout comes before
the first byte of the next message. -/
theorem messages_read_back (ms : List Message) (hms : ∀ m ∈ ms, m.body.length ≤ 1024 * 1024 - 4) :
    ∃ written, writeAll ms .unbounded = (.ok (), { Stream.Sink.unbounded with written }) ∧
      (∀ source, Stream.Steady Waits source → Stream.bytesOf source = written →
        ∃ rest, Reads source (ms.map .normal) rest ∧ read rest = (.error .closed, [])) ∧
      (∀ source, Stream.Steady Waits source → Stream.bytesOf source <+: written →
        (∃ taken rest, Reads source taken rest ∧ read rest = (.error .closed, [])) ∧
        ∀ taken rest, Reads source taken rest → ∃ done more, ms = done ++ more ∧
          taken = done.map .normal ∧
          Stream.bytesOf source = done.flatMap wire ++ Stream.bytesOf rest ∧ Attempt more rest) ∧
      (∀ source rest, read source = (.ok none, rest) ↔ Pauses source rest) := by
  have hfits : ∀ m ∈ ms, m.Fits := fun m hm => fits_of_body (hms m hm)
  refine ⟨ms.flatMap wire, writeAll_of_fits hfits .unbounded rfl rfl, ?_, ?_,
    fun source rest => read_eq_none_iff⟩
  · intro source hsteady hbytes
    have hdelivery : Delivery ms source := ⟨hfits, hsteady, hbytes ▸ List.prefix_rfl⟩
    obtain ⟨taken, rest, hreads, hend⟩ := hdelivery.reads_to_end
    obtain ⟨done, more, rfl, rfl, hmore, hrest⟩ := hdelivery.of_reads hreads
    -- Nothing was cut off, so that a message still to come would be there as a whole.
    have hleft : Stream.bytesOf rest = more.flatMap wire := by
      rw [hbytes, List.flatMap_append] at hrest
      exact (List.append_cancel_left hrest).symm
    have hnone : more = [] := by
      cases more with
      | nil => rfl
      | cons m more =>
          have hshort := hmore.short_of_closed hend
          rw [hleft, List.flatMap_cons, List.length_append] at hshort
          omega
    subst hnone
    exact ⟨rest, by simpa using hreads, hend⟩
  · intro source hsteady hbytes
    have hdelivery : Delivery ms source := ⟨hfits, hsteady, hbytes⟩
    refine ⟨hdelivery.reads_to_end, ?_⟩
    intro taken rest hreads
    obtain ⟨done, more, hsplit, htaken, hmore, hrest⟩ := hdelivery.of_reads hreads
    exact ⟨done, more, hsplit, htaken, hrest, hmore.attempt.1⟩

/-- A message with a body and one without, of a kind that is spelled in two ways. -/
theorem messages_read_back_two :
    (∀ m ∈ [(⟨.other 5, 1, 99, [0, 7]⟩ : Message), ⟨.ping, 2, 99, []⟩],
      m.body.length ≤ 1024 * 1024 - 4) ∧
    ∃ written, writeAll [⟨.other 5, 1, 99, [0, 7]⟩, ⟨.ping, 2, 99, []⟩] .unbounded =
        (.ok (), { Stream.Sink.unbounded with written }) ∧
      (∀ source, Stream.Steady Waits source → Stream.bytesOf source = written →
        ∃ rest, Reads source [⟨.invoke, 1, 99, [0, 7]⟩, ⟨.ping, 2, 99, []⟩] rest ∧
          read rest = (.error .closed, [])) ∧
      (∀ source, Stream.Steady Waits source → Stream.bytesOf source <+: written →
        (∃ taken rest, Reads source taken rest ∧ read rest = (.error .closed, [])) ∧
        ∀ taken rest, Reads source taken rest → ∃ done more,
          [⟨.other 5, 1, 99, [0, 7]⟩, ⟨.ping, 2, 99, []⟩] = done ++ more ∧
          taken = done.map .normal ∧
          Stream.bytesOf source = done.flatMap wire ++ Stream.bytesOf rest ∧ Attempt more rest) ∧
      (∀ source rest, read source = (.ok none, rest) ↔ Pauses source rest) :=
  ⟨by decide, messages_read_back [⟨.other 5, 1, 99, [0, 7]⟩, ⟨.ping, 2, 99, []⟩] (by decide)⟩

/-- Timeouts inside a header and inside a body, between a message and the end, and none reported
but the last. -/
example : readings
    [.bytes [0, 5, 0], .failure .timedOut, .bytes [1, 0, 0, 0, 99, 0, 0, 0, 6, 8],
      .failure .wouldBlock, .bytes [9], .failure .interrupted, .failure .timedOut] =
    [.message ⟨.invoke, 1, 99, [8, 9]⟩, .idle] := by
  cbv

end Message
end Switchyard.Bus
