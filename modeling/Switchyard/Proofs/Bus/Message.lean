import Switchyard.Bus.Message
import Switchyard.Proofs.Bus.Item
import Switchyard.Proofs.Stream.Source

/-!
# Switchyard.Proofs.Bus.Message

**Messages are read back from any delivery of their bytes** (`readings_bring`): however the bytes
are cut, and wherever a reader is interrupted or has to wait, what can be read is these messages in
their order, with idle moments between them and at most the end of the stream behind them
(`Brings`).

* `fill_of_enough` — with enough bytes to come, `fill` takes the first of them and leaves the
  others.
* `idle_or_fill` — where idling is allowed, the only other outcome is an idle moment that takes no
  byte.
* `idle_or_read` — so each attempt is an idle moment or the next message.

A reader waits out interruptions and, inside of a message, timeouts; before the first byte of a
message a timeout is an idle moment. `Waits` are these failures, and a source is steady if it has no
other ones. So there are two statements about taking bytes: where idling is not allowed there is one
outcome, which depends on the bytes alone and not on how they are cut; where it is allowed, there is
at most an idle moment more. Everything after that is about bytes only.

* `fill_of_few` — with too few bytes, the same source ends.
* `ofHeader_header_eq` — the header as a whole, also of messages that are too long for a reader.
  `Switchyard.Proofs.Bus.Limits` is about those.
* `readingsWithin_bring` — all attempts in a row. The induction is on the fuel, which counts
  arrivals and bytes together, since an idle moment takes no byte and a message may take no arrival.
-/

namespace Switchyard.Bus

variable {m : Message} {source : Stream.Source} {n : Nat} {e : IoError} {s : Octets}

/-- What the reader of a message waits out, or takes for an idle moment. -/
def Waits (e : IoError) : Prop :=
  e = .interrupted ∨ e = .timedOut ∨ e = .wouldBlock

namespace Message

/-! ### Writing -/

/-- The bytes of a message that its length in the header allows for: what a reader has to find to
get the message back. -/
def wire (m : Message) : Octets :=
  m.header ++ m.body

/-- A message that a reader accepts. -/
def Fits (m : Message) : Prop :=
  m.containerLength ≤ maxLength

theorem octets_of_fits (h : m.Fits) : m.octets = .ok m.wire := by
  unfold octets
  rw [if_pos (Nat.lt_of_le_of_lt h (by decide))]
  rfl

@[simp] theorem length_header (m : Message) : m.header.length = headerSize := by
  simp [header, headerSize]

theorem wire_ne_nil (m : Message) : m.wire ≠ [] := by
  simp [wire, header]

/-- Sends messages one after another, up to the first that cannot be sent. -/
def writeAll : List Message → Stream.Sink → Except Error Unit × Stream.Sink
  | [], sink => (.ok (), sink)
  | m :: rest, sink =>
    match m.write sink with
    | (.error e, sink) => (.error e, sink)
    | (.ok (), sink) => writeAll rest sink

theorem write_of_fits (h : m.Fits) {sink : Stream.Sink} (hroom : sink.room = none)
    (hflush : sink.flushError = none) :
    m.write sink = (.ok (), { sink with written := sink.written ++ m.wire }) := by
  unfold write
  rw [octets_of_fits h]
  simp only [Stream.Sink.writeAll, Stream.Sink.flush, hroom, hflush]

/-- A sink that takes everything takes the bytes of all messages, one behind the other. By induction
over the messages. -/
theorem writeAll_of_fits {ms : List Message} (h : ∀ m ∈ ms, m.Fits) (sink : Stream.Sink)
    (hroom : sink.room = none) (hflush : sink.flushError = none) :
    writeAll ms sink = (.ok (), { sink with written := sink.written ++ ms.flatMap wire }) := by
  induction ms generalizing sink with
  | nil => rw [writeAll, List.flatMap_nil, List.append_nil]
  | cons m rest ih =>
      obtain ⟨hm, hrest⟩ := List.forall_mem_cons.mp h
      rw [writeAll, write_of_fits hm hroom hflush]
      dsimp only
      rw [ih hrest { sink with written := sink.written ++ m.wire } hroom hflush,
        List.flatMap_cons, List.append_assoc]

/-! ### Taking bytes -/

/-- What a reader leaves of a source after it took `n` bytes. The pieces that are left may be cut
otherwise than they came, and there are no more of them. -/
structure Leaves (n : Nat) (source rest : Stream.Source) : Prop where
  steady : Stream.Steady Waits rest
  bytes : Stream.bytesOf rest = (Stream.bytesOf source).drop n
  length_le : rest.length ≤ source.length

theorem fill_zero (idleAllowed : Bool) (source : Stream.Source) :
    fill idleAllowed 0 source = (.ok (some []), source) := by
  cases source <;> rfl

theorem fill_of_wait (h : Waits e) (hn : n ≠ 0) (rest : Stream.Source) :
    fill false n (.failure e :: rest) = fill false n rest := by
  rcases h with rfl | rfl | rfl <;> rw [fill, if_neg hn] <;> rfl

/-- A piece that is longer than what is wanted is cut, and what is left of it comes first next time.
-/
theorem fill_of_le (idleAllowed : Bool) (hn : n ≠ 0) (h : n ≤ s.length) (rest : Stream.Source) :
    fill idleAllowed n (.bytes s :: rest) =
      (.ok (some (s.take n)), if (s.drop n).isEmpty then rest else .bytes (s.drop n) :: rest) := by
  have hlength : (s.take n).length = n := List.length_take_of_le h
  have hne : (s.take n).isEmpty = false := by
    rw [List.isEmpty_eq_false_iff, ← List.length_pos_iff, hlength]
    exact Nat.pos_of_ne_zero hn
  rw [fill, if_neg hn]
  simp only [hne, hlength, Nat.lt_irrefl, if_false, Bool.false_eq_true]

/-- A piece that is shorter than what is wanted is all taken, and the rest must bring the others.
From there on nothing is an idle moment any more, even if there are timeouts. -/
theorem fill_of_lt (idleAllowed : Bool) (hs : s ≠ []) (h : s.length < n) (rest : Stream.Source) :
    fill idleAllowed n (.bytes s :: rest) =
      match fill false (n - s.length) rest with
      | (.ok more, rest) => (.ok (some (s ++ more.getD [])), rest)
      | (.error e, rest) => (.error e, rest) := by
  have htake : s.take n = s := List.take_of_length_le (Nat.le_of_lt h)
  have hne : s.isEmpty = false := List.isEmpty_eq_false_iff.mpr hs
  rw [fill, if_neg (by omega)]
  simp only [htake, hne, if_false, Bool.false_eq_true]
  exact if_pos h

/-- With enough bytes to come, the first are taken and the others are left. By induction over the
arrivals: failures are passed over, and a piece is cut or taken as a whole. -/
theorem fill_of_enough (h : Stream.Steady Waits source)
    (hn : n ≤ (Stream.bytesOf source).length) :
    ∃ rest, fill false n source = (.ok (some ((Stream.bytesOf source).take n)), rest) ∧
      Leaves n source rest := by
  by_cases hzero : n = 0
  · subst hzero
    exact ⟨source, fill_zero _ _, h, rfl, Nat.le_refl _⟩
  induction source generalizing n with
  | nil => exact absurd (Nat.le_zero.mp hn) hzero
  | cons arrival rest ih =>
      obtain ⟨harrival, hrest⟩ := Stream.steady_cons_iff.mp h
      cases arrival with
      | failure e =>
          obtain ⟨rest', hfill, hleaves⟩ := ih hrest hn hzero
          refine ⟨rest', ?_, hleaves.steady, hleaves.bytes, Nat.le_succ_of_le hleaves.length_le⟩
          rw [fill_of_wait harrival hzero, hfill, Stream.bytesOf_failure]
      | bytes s =>
          rw [Stream.bytesOf_bytes, List.length_append] at hn
          by_cases hle : n ≤ s.length
          · refine ⟨if (s.drop n).isEmpty then rest else .bytes (s.drop n) :: rest, ?_,
              Stream.steady_putBack hrest, ?_, Stream.length_putBack_le⟩
            · rw [fill_of_le _ hzero hle, Stream.bytesOf_bytes, List.take_append_of_le_length hle]
            · rw [Stream.bytesOf_putBack, Stream.bytesOf_bytes, List.drop_append_of_le_length hle]
          · have hlt : s.length < n := Nat.not_le.mp hle
            obtain ⟨rest', hfill, hleaves⟩ :=
              ih (n := n - s.length) hrest (by omega) (by omega)
            refine ⟨rest', ?_, hleaves.steady, ?_, Nat.le_succ_of_le hleaves.length_le⟩
            · rw [fill_of_lt _ harrival hlt, hfill, Stream.bytesOf_bytes, List.take_append,
                List.take_of_length_le (Nat.le_of_lt hlt)]
              rfl
            · rw [hleaves.bytes, Stream.bytesOf_bytes, List.drop_append,
                List.drop_of_length_le (Nat.le_of_lt hlt), List.nil_append]

/-- An idle moment: no byte is taken, only what made the reader wait. So an arrival less is to come,
but the same bytes. -/
structure Idles (source rest : Stream.Source) : Prop where
  steady : Stream.Steady Waits rest
  bytes : Stream.bytesOf rest = Stream.bytesOf source
  length_lt : rest.length < source.length

/-- Where idling is allowed, there is an idle moment or everything is as where it is not. So nothing
has to be proved about taking bytes a second time. -/
theorem idle_or_fill (h : Stream.Steady Waits source) (hn : n ≠ 0) :
    (∃ rest, fill true n source = (.ok none, rest) ∧ Idles source rest) ∨
      fill true n source = fill false n source := by
  induction source with
  | nil => exact .inr rfl
  | cons arrival rest ih =>
      obtain ⟨harrival, hrest⟩ := Stream.steady_cons_iff.mp h
      have hidle (hfill : fill true n (arrival :: rest) = (.ok none, rest))
          (hbytes : Stream.bytesOf (arrival :: rest) = Stream.bytesOf rest) :
          ∃ rest', fill true n (arrival :: rest) = (.ok none, rest') ∧
            Idles (arrival :: rest) rest' :=
        ⟨rest, hfill, hrest, hbytes.symm, Nat.lt_succ_self _⟩
      cases arrival with
      | failure e =>
          rcases harrival with rfl | rfl | rfl
          · have hskip (b : Bool) : fill b n (.failure .interrupted :: rest) = fill b n rest := by
              rw [fill, if_neg hn]
            rw [hskip, hskip]
            refine (ih hrest).imp_left ?_
            rintro ⟨rest', hfill, hidles⟩
            exact ⟨rest', hfill, hidles.steady, hidles.bytes, Nat.lt_succ_of_lt hidles.length_lt⟩
          · exact .inl (hidle (by rw [fill, if_neg hn]; rfl) rfl)
          · exact .inl (hidle (by rw [fill, if_neg hn]; rfl) rfl)
      | bytes s =>
          -- Once there are bytes, the reader does not idle any more.
          right
          rw [fill, fill]

/-- With too few bytes to come, a steady source ends, and whatever came of them is lost. -/
theorem fill_of_few (h : Stream.Steady Waits source) (hn : (Stream.bytesOf source).length < n) :
    fill false n source = (.error .closed, []) := by
  induction source generalizing n with
  | nil => rw [fill, if_neg (Nat.ne_zero_of_lt hn)]
  | cons arrival rest ih =>
      obtain ⟨harrival, hrest⟩ := Stream.steady_cons_iff.mp h
      cases arrival with
      | failure e => rw [fill_of_wait harrival (Nat.ne_zero_of_lt hn), ih hrest hn]
      | bytes s =>
          rw [Stream.bytesOf_bytes, List.length_append] at hn
          rw [fill_of_lt false harrival (by omega), ih hrest (by omega)]

/-! ### One message -/

/-- The length that a reader finds in the header, of which it takes three bytes. For a message that
fits, these are all of it. -/
def shownLength (m : Message) : Nat :=
  m.containerLength % 0x1000000

theorem shownLength_of_fits (h : m.Fits) : m.shownLength = m.containerLength := by
  have hmax : m.containerLength ≤ 1048576 := h
  unfold shownLength
  omega

/-- What a reader makes of the header: the message but for its body, and the length of the body. It
refuses a length that is above its limit, or below that of the word which tells it. -/
theorem ofHeader_header_eq (h : m.containerLength < 0x100000000) :
    ofHeader m.header =
      if wordSize ≤ m.shownLength ∧ m.shownLength ≤ maxLength then
        .ok ({ m.normal with body := [] }, m.shownLength - wordSize)
      else .error (.malformed .messageLength) := by
  have hunfold : ofHeader m.header =
      if wordSize ≤ Octets.ofBigEndian (Octets.bigEndian 4 m.containerLength) % 0x1000000 ∧
          Octets.ofBigEndian (Octets.bigEndian 4 m.containerLength) % 0x1000000 ≤ maxLength then
        .ok (⟨.ofCode m.kind.code,
            UInt16.ofNat (Octets.ofBigEndian (Octets.bigEndian 2 m.seq.toNat)),
            UInt32.ofNat (Octets.ofBigEndian (Octets.bigEndian 4 m.peer.toNat)), []⟩,
          Octets.ofBigEndian (Octets.bigEndian 4 m.containerLength) % 0x1000000 - wordSize)
      else .error (.malformed .messageLength) := rfl
  have hseq : m.seq.toNat % 256 ^ 2 = m.seq.toNat := Nat.mod_eq_of_lt m.seq.toNat_lt
  have hpeer : m.peer.toNat % 256 ^ 4 = m.peer.toNat := Nat.mod_eq_of_lt m.peer.toNat_lt
  have hcontainer : m.containerLength % 256 ^ 4 = m.containerLength := Nat.mod_eq_of_lt h
  rw [hunfold]
  simp only [Octets.ofBigEndian_bigEndian, hseq, hpeer, hcontainer, UInt16.ofNat_toNat,
    UInt32.ofNat_toNat]
  rfl

/-- The header of a message that fits tells the message but for its body, and the length of the
body. -/
theorem ofHeader_header (h : m.Fits) :
    ofHeader m.header = .ok ({ m.normal with body := [] }, m.body.length) := by
  have hlength : m.containerLength = wordSize + m.body.length := rfl
  have hmax : m.containerLength ≤ maxLength := h
  rw [ofHeader_header_eq (Nat.lt_of_le_of_lt h (by decide)), shownLength_of_fits h, hlength,
    if_pos ⟨Nat.le_add_right _ _, hlength ▸ hmax⟩, Nat.add_sub_cancel_left]

/-- An attempt to read where a header comes next: an idle moment, or the header. An attempt without
an idle moment goes on with the source `inner` that is left behind the header. -/
theorem idle_or_header (h : Stream.Steady Waits source) {behind : Octets}
    (hbytes : Stream.bytesOf source = m.header ++ behind) :
    (∃ rest, read source = (.ok none, rest) ∧ Idles source rest) ∨
      ∃ inner, fill true headerSize source = (.ok (some m.header), inner) ∧
        Leaves headerSize source inner ∧ Stream.bytesOf inner = behind := by
  rcases idle_or_fill (n := headerSize) h (by decide) with ⟨rest, hfill, hidles⟩ | hfill
  · left
    refine ⟨rest, ?_, hidles⟩
    unfold read
    rw [hfill]
  · right
    obtain ⟨inner, hheader, hinner⟩ := fill_of_enough (n := headerSize) h (by
      rw [hbytes, List.length_append, length_header]
      omega)
    refine ⟨inner, ?_, hinner, ?_⟩
    · rw [hfill, hheader, hbytes, List.take_left' (length_header m)]
    · rw [hinner.bytes, hbytes, List.drop_left' (length_header m)]

/-- An attempt to read where a message comes next: an idle moment, or the message. Its kind comes
back as its code tells it, which is what `normal` does. -/
theorem idle_or_read (h : Stream.Steady Waits source) (hm : m.Fits) {behind : Octets}
    (hbytes : Stream.bytesOf source = m.wire ++ behind) :
    (∃ rest, read source = (.ok none, rest) ∧ Idles source rest) ∨
      ∃ rest, read source = (.ok (some m.normal), rest) ∧ Leaves m.wire.length source rest := by
  have hsplit : Stream.bytesOf source = m.header ++ (m.body ++ behind) := by
    rw [hbytes, wire, List.append_assoc]
  refine (idle_or_header h hsplit).imp_right ?_
  rintro ⟨inner, hheader, hinner, hmore⟩
  obtain ⟨rest, hbody, hrest⟩ := fill_of_enough (n := m.body.length) hinner.steady (by
    rw [hmore, List.length_append]
    omega)
  refine ⟨rest, ?_, hrest.steady, ?_, Nat.le_trans hrest.length_le hinner.length_le⟩
  · unfold read
    rw [hheader]
    simp only [ofHeader_header hm, hbody, hmore, List.take_left, Option.getD_some]
    rfl
  · rw [hrest.bytes, hinner.bytes, List.drop_drop, wire, List.length_append, length_header]

/-- An attempt to read where no whole header comes: an idle moment, or the end. It does not matter
what the bytes are. -/
theorem idle_or_closed (h : Stream.Steady Waits source)
    (hfew : (Stream.bytesOf source).length < headerSize) :
    (∃ rest, read source = (.ok none, rest) ∧ Idles source rest) ∨
      read source = (.error .closed, []) := by
  refine (idle_or_fill (n := headerSize) h (by decide)).imp ?_ ?_
  · rintro ⟨rest, hfill, hidles⟩
    refine ⟨rest, ?_, hidles⟩
    unfold read
    rw [hfill]
  · intro hfill
    unfold read
    rw [hfill, fill_of_few h hfew]

end Message

/-! ### All messages -/

/-- What can be read brings these messages in their order, with idle moments between them and at
most the end of the stream behind them.

A list of readings that brings messages has no failure but that end, so that nothing is lost without
a sign. -/
inductive Brings : List Message → List Reading → Prop
  | nothing : Brings [] []
  | closed : Brings [] [.failed .closed]
  | idle {ms : List Message} {rs : List Reading} : Brings ms rs → Brings ms (.idle :: rs)
  | message {ms : List Message} {rs : List Reading} (m : Message) :
    Brings ms rs → Brings (m :: ms) (.message m :: rs)

theorem readingsWithin_bring {ms : List Message} (hms : ∀ m ∈ ms, m.Fits) {fuel : Nat}
    {source : Stream.Source} (h : Stream.Steady Waits source)
    (hbytes : Stream.bytesOf source = ms.flatMap Message.wire)
    (hfuel : source.length + (Stream.bytesOf source).length ≤ fuel) :
    Brings (ms.map .normal) (readingsWithin fuel source) := by
  induction fuel generalizing source ms with
  | zero =>
      have hempty : ms.flatMap Message.wire = [] := by
        rw [← hbytes, ← List.length_eq_zero_iff]
        omega
      cases ms with
      | nil => exact .nothing
      | cons m ms => exact absurd (List.append_eq_nil_iff.mp hempty).1 m.wire_ne_nil
  | succ fuel ih =>
      -- An idle moment takes an arrival, so that the rest is read with less fuel.
      have hidle {rest : Stream.Source} (hread : Message.read source = (.ok none, rest))
          (hidles : Message.Idles source rest) :
          Brings (ms.map .normal) (readingsWithin (fuel + 1) source) := by
        have hlength := hidles.length_lt
        have hrest := ih hms hidles.steady (hidles.bytes.trans hbytes) (by
          rw [hidles.bytes]
          omega)
        have hne : source.isEmpty = false := by
          rw [List.isEmpty_eq_false_iff, ← List.length_pos_iff]
          omega
        rw [readingsWithin, hne, hread]
        exact .idle hrest
      by_cases hsource : source = []
      · subst hsource
        cases ms with
        | nil => exact .nothing
        | cons m ms => exact absurd (List.append_eq_nil_iff.mp hbytes.symm).1 m.wire_ne_nil
      have hne : source.isEmpty = false := List.isEmpty_eq_false_iff.mpr hsource
      cases ms with
      | nil =>
          have hfew : (Stream.bytesOf source).length < Message.headerSize := by
            rw [hbytes]
            decide
          rcases Message.idle_or_closed h hfew with ⟨rest, hread, hidles⟩ | hread
          · exact hidle hread hidles
          · rw [readingsWithin, hne, hread]
            have hend : readingsWithin fuel [] = [] := by cases fuel <;> rfl
            simp only [hend]
            exact .closed
      | cons m ms =>
          obtain ⟨hm, hms'⟩ := List.forall_mem_cons.mp hms
          rcases Message.idle_or_read h hm hbytes with
            ⟨rest, hread, hidles⟩ | ⟨rest, hread, hleaves⟩
          · exact hidle hread hidles
          · have hbehind : Stream.bytesOf rest = ms.flatMap Message.wire := by
              rw [hleaves.bytes, hbytes, List.flatMap_cons, List.drop_left]
            have hlength := hleaves.length_le
            have hwire := List.length_pos_iff.mpr m.wire_ne_nil
            have hrest := ih hms' hleaves.steady hbehind (by
              rw [hbytes, List.flatMap_cons, List.length_append] at hfuel
              rw [hbehind]
              omega)
            rw [readingsWithin, hne, hread]
            exact .message _ hrest

/-- Messages that fit are read back from any steady delivery of their bytes. -/
theorem readings_bring {ms : List Message} (hms : ∀ m ∈ ms, m.Fits)
    (h : Stream.Steady Waits source) (hbytes : Stream.bytesOf source = ms.flatMap Message.wire) :
    Brings (ms.map .normal) (readings source) := by
  unfold readings
  rw [Stream.pendingBytes_eq]
  exact readingsWithin_bring hms h hbytes (Nat.le_refl _)

end Switchyard.Bus
