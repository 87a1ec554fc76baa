import Switchyard.Proofs.Bus.Message

/-!
# Switchyard.Proofs.Bus.Limits

**A message that is written is read back exactly when its length is at most the reader's limit**
(`read_back_iff_fits`).

The writer refuses only what is too long for a length of four bytes. The reader takes three bytes of
that length and accepts up to `maxLength`, so a longer message is written and then lost: where the
three bytes are out of bounds the reader refuses it, and from sixteen MiB on they may be in bounds
again, so that a part of the body is taken for all of it and the other part for what follows.
`Taken` has a constructor for each of these, and `idle_or_taken` says that there is no other way.

That there are three ways depends on two comparisons. The length fits or not; and the low 24 bits of
the length, which are all that the reader sees, are in bounds or not. A length that fits is shown as
it is, so one of the four combinations is impossible (`showsAccepted_of_fits`).
-/

namespace Switchyard.Bus.Message

variable {m : Message} {source : Stream.Source} {behind : Octets}

/-! ### Writing -/

/-- A sink that takes everything takes all bytes of a message, or none if the length has no room for
its size. The bound is that of a length of four bytes, far above what a reader accepts. -/
theorem write_eq (m : Message) {sink : Stream.Sink} (hroom : sink.room = none)
    (hflush : sink.flushError = none) :
    m.write sink =
      if m.containerLength < 0x100000000 then
        (.ok (), { sink with written := sink.written ++ m.wire })
      else (.error (.malformed .messageSize), sink) := by
  unfold write octets
  by_cases hlength : m.containerLength < 0x100000000
  · rw [if_pos hlength, if_pos hlength]
    simp only [Stream.Sink.writeAll, Stream.Sink.flush, hroom, hflush]
    rfl
  · rw [if_neg hlength, if_neg hlength]

theorem write_unbounded (hm : m.containerLength < 0x100000000) :
    m.write .unbounded = (.ok (), { Stream.Sink.unbounded with written := m.wire }) := by
  have hwritten : Stream.Sink.unbounded.written ++ m.wire = m.wire := List.nil_append _
  rw [write_eq m rfl rfl, if_pos hm, hwritten]

/-! ### Reading -/

/-- A length that a reader finds in the header and accepts. It need not be the length of the
message. -/
def ShowsAccepted (m : Message) : Prop :=
  wordSize ≤ m.shownLength ∧ m.shownLength ≤ maxLength

/-- As much of the body as the header tells a reader. -/
def shownBody (m : Message) : Octets :=
  m.body.take (m.shownLength - wordSize)

/-- What the header does not tell a reader of the body. The reader will look for the next message
there. -/
def hiddenBody (m : Message) : Octets :=
  m.body.drop (m.shownLength - wordSize)

theorem showsAccepted_of_fits (h : m.Fits) : m.ShowsAccepted := by
  refine ⟨?_, shownLength_of_fits h ▸ h⟩
  rw [shownLength_of_fits h]
  exact Nat.le_add_right _ _

/-- The header hides a part of the body exactly where it does not fit: a length that fits is shown
as it is, and one that does not is above all that is accepted. -/
theorem hiddenBody_eq_nil_iff (h : m.ShowsAccepted) : m.hiddenBody = [] ↔ m.Fits := by
  have hlength : m.containerLength = wordSize + m.body.length := rfl
  have hle : m.shownLength ≤ m.containerLength := Nat.mod_le _ _
  obtain ⟨hlow, hhigh⟩ := h
  rw [hiddenBody, List.drop_eq_nil_iff]
  constructor
  · intro hall
    unfold Fits
    omega
  · intro hfits
    rw [shownLength_of_fits hfits]
    omega

theorem shownBody_of_fits (h : m.Fits) : m.shownBody = m.body := by
  have hlength : m.containerLength = wordSize + m.body.length := rfl
  rw [shownBody, shownLength_of_fits h, hlength, Nat.add_sub_cancel_left, List.take_length]

/-- What an attempt to read makes of the bytes of a message and those behind them. -/
inductive Taken (m : Message) (behind : Octets) (source : Stream.Source) : Prop
  /-- The message is read back, and the bytes behind it are left. -/
  | whole {rest : Stream.Source} (h : m.Fits) (hread : read source = (.ok (some m.normal), rest))
      (hbytes : Stream.bytesOf rest = behind)
  /-- A message with a part of the body is read, and the other part is left for what follows. -/
  | part {rest : Stream.Source} (h : ¬m.Fits) (hshown : m.ShowsAccepted)
      (hread : read source = (.ok (some { m.normal with body := m.shownBody }), rest))
      (hbytes : Stream.bytesOf rest = m.hiddenBody ++ behind) (hhidden : m.hiddenBody ≠ [])
  /-- The message is refused, and its body is left for what follows. -/
  | refused {rest : Stream.Source} (h : ¬m.Fits) (hshown : ¬m.ShowsAccepted)
      (hread : read source = (.error (.malformed .messageLength), rest))
      (hbytes : Stream.bytesOf rest = m.body ++ behind)

/-- An attempt to read where the bytes of a message come next: an idle moment, or one of the three
ways to take them. Everything behind the message is left in each of the cases, and what is left in
front of it tells them apart. -/
theorem idle_or_taken (h : Stream.Steady Waits source) (hm : m.containerLength < 0x100000000)
    (hbytes : Stream.bytesOf source = m.wire ++ behind) :
    (∃ rest, read source = (.ok none, rest) ∧ Idles source rest) ∨ Taken m behind source := by
  have hsplit : Stream.bytesOf source = m.header ++ (m.body ++ behind) := by
    rw [hbytes, wire, List.append_assoc]
  refine (idle_or_header h hsplit).imp_right ?_
  rintro ⟨inner, hheader, hinner, hmore⟩
  by_cases hshown : m.ShowsAccepted
  · -- The header tells of no more than the body, so there are bytes enough.
    have hle : m.shownLength - wordSize ≤ m.body.length := by
      have hmod : m.shownLength ≤ m.containerLength := Nat.mod_le _ _
      have hlength : m.containerLength = wordSize + m.body.length := rfl
      omega
    obtain ⟨rest, hbody, hrest⟩ := fill_of_enough (n := m.shownLength - wordSize) hinner.steady (by
      rw [hmore, List.length_append]
      omega)
    have hread : read source = (.ok (some { m.normal with body := m.shownBody }), rest) := by
      have hof : ofHeader m.header =
          .ok ({ m.normal with body := [] }, m.shownLength - wordSize) :=
        (ofHeader_header_eq hm).trans (if_pos hshown)
      unfold read
      rw [hheader]
      simp only [hof, hbody, hmore, Option.getD_some, List.take_append_of_le_length hle]
      rfl
    have hleft : Stream.bytesOf rest = m.hiddenBody ++ behind := by
      rw [hrest.bytes, hmore, List.drop_append_of_le_length hle]
      rfl
    by_cases hfits : m.Fits
    · rw [shownBody_of_fits hfits] at hread
      rw [(hiddenBody_eq_nil_iff hshown).mpr hfits] at hleft
      exact .whole hfits hread hleft
    · exact .part hfits hshown hread hleft (mt (hiddenBody_eq_nil_iff hshown).mp hfits)
  · have hfits : ¬m.Fits := mt showsAccepted_of_fits hshown
    have hof : ofHeader m.header = .error (.malformed .messageLength) :=
      (ofHeader_header_eq hm).trans (if_neg hshown)
    have hread : read source = (.error (.malformed .messageLength), inner) := by
      unfold read
      rw [hheader]
      simp only [hof]
    exact .refused hfits hshown hread hmore

/-- Where all bytes are there at once, there is no idle moment, so that one attempt decides what
becomes of the message. -/
theorem taken_of_bytes (hm : m.containerLength < 0x100000000) (behind : Octets) :
    Taken m behind [.bytes (m.wire ++ behind)] := by
  have hne : m.wire ++ behind ≠ [] := by simp [m.wire_ne_nil]
  have hsteady : Stream.Steady Waits [.bytes (m.wire ++ behind)] :=
    Stream.steady_cons_iff.mpr ⟨hne, List.forall_mem_nil _⟩
  have hbytes : Stream.bytesOf [.bytes (m.wire ++ behind)] = m.wire ++ behind := by simp
  rcases idle_or_taken hsteady hm hbytes with ⟨rest, -, hidles⟩ | htaken
  · -- An idle moment would leave all bytes in fewer pieces than one.
    have hrest : rest = [] := List.length_eq_zero_iff.mp (Nat.lt_one_iff.mp hidles.length_lt)
    have hnil := hidles.bytes
    rw [hrest, hbytes] at hnil
    exact absurd hnil.symm hne
  · exact htaken

/-- **A message that is written is read back exactly when its length is at most the reader's
limit.** A sink that takes everything is given all bytes of a message, or none, and that only if
four bytes cannot hold its length. Whoever then reads these bytes, in any pieces and with any
waiting between them, gets the message and has all of its bytes behind him exactly when the message
fits; else he is refused, or takes a part of the body for the whole and leaves the other part to be
taken for what follows. -/
theorem read_back_iff_fits (m : Message) (before behind : Octets) :
    let sink : Stream.Sink := { Stream.Sink.unbounded with written := before }
    (m.write sink =
      if m.containerLength < 0x100000000 then (.ok (), { sink with written := before ++ m.wire })
      else (.error (.malformed .messageSize), sink)) ∧
    (m.containerLength < 0x100000000 → ∀ source, Stream.Steady Waits source →
      Stream.bytesOf source = m.wire ++ behind →
      (∃ rest, read source = (.ok none, rest) ∧ Idles source rest) ∨ Taken m behind source) ∧
    (m.containerLength < 0x100000000 →
      ((∃ rest, read [.bytes (m.wire ++ behind)] = (.ok (some m.normal), rest) ∧
        Stream.bytesOf rest = behind) ↔ m.Fits)) := by
  refine ⟨write_eq m rfl rfl, fun hm source hsteady hbytes => idle_or_taken hsteady hm hbytes, ?_⟩
  intro hm
  cases taken_of_bytes hm behind with
  | whole hfits hread hbytes => exact ⟨fun _ => hfits, fun _ => ⟨_, hread, hbytes⟩⟩
  | part hfits hshown hread hbytes hhidden =>
      refine ⟨?_, fun h => absurd h hfits⟩
      rintro ⟨rest, hwhole, hleft⟩
      rw [hread, Prod.mk.injEq] at hwhole
      obtain ⟨-, rfl⟩ := hwhole
      -- What is left of the body stands in front of what was behind it.
      rw [hbytes] at hleft
      exact absurd (List.append_cancel_right (hleft.trans (List.nil_append behind).symm)) hhidden
  | refused hfits hshown hread hbytes =>
      refine ⟨?_, fun h => absurd h hfits⟩
      rintro ⟨rest, hwhole, -⟩
      rw [hread, Prod.mk.injEq] at hwhole
      cases hwhole.1

/-- A message whose body is an attribute of one MiB. Its length has room in the header, but is above
the limit of a reader. -/
def large : Message :=
  ⟨.data, 1, 1, [7, 0x10, 0, 4] ++ List.replicate 0x100000 120⟩

theorem length_large : large.containerLength = 0x100008 := by
  have hbody : large.body = [7, 0x10, 0, 4] ++ List.replicate 0x100000 120 := rfl
  have hheader : ([7, 0x10, 0, 4] : Octets).length = 4 := rfl
  rw [containerLength, hbody, List.length_append, List.length_replicate, hheader]
  rfl

theorem not_showsAccepted_large : ¬large.ShowsAccepted := by
  rw [ShowsAccepted, shownLength, length_large]
  decide

/-- What a reader refuses where all bytes are there at once. The body is left, and the next attempt
begins inside of it. -/
theorem refused_of_not_showsAccepted (hm : m.containerLength < 0x100000000)
    (hshown : ¬m.ShowsAccepted) :
    ∃ rest, read [.bytes m.wire] = (.error (.malformed .messageLength), rest) ∧
      Stream.bytesOf rest = m.body := by
  have htaken := taken_of_bytes hm []
  rw [List.append_nil] at htaken
  cases htaken with
  | whole hfits _ _ => exact absurd (showsAccepted_of_fits hfits) hshown
  | part _ h _ _ _ => exact absurd h hshown
  | refused _ _ hread hbytes => exact ⟨_, hread, hbytes.trans (List.append_nil _)⟩

/-- A message that is written and not read back: a reader refuses it, and then has its body before
him where a message should start. -/
theorem large_written_and_refused :
    large.write .unbounded = (.ok (), { Stream.Sink.unbounded with written := large.wire }) ∧
    ∃ rest, read [.bytes large.wire] = (.error (.malformed .messageLength), rest) ∧
      Stream.bytesOf rest = large.body := by
  have hm : large.containerLength < 0x100000000 := by
    rw [length_large]
    decide
  exact ⟨write_unbounded hm, refused_of_not_showsAccepted hm not_showsAccepted_large⟩

end Switchyard.Bus.Message
