import Switchyard.Frame
import Switchyard.Proofs.Octets
import Switchyard.Proofs.Stream.Source

/-!
# Switchyard.Proofs.Frame

**Frames are read back from any delivery of their bytes** (`frames_read_back`), up to the point
where the stream ends. Whole frames give their payloads. A stream that ends between two frames ends
cleanly; one that ends inside a frame is truncated, and the error tells how much of the header or of
the payload came (`ending`).

* `readFull_of_delivers` (in `Switchyard.Proofs.Stream.Source`) is all that is used of a source:
  how its bytes are cut does not matter. So two deliveries of the same bytes give the same, frames
  or not (`yields_of_same`).
* `read_of_frame` and `yields_of_cut` — what one attempt makes of a whole frame, and of a part of
  one.
* `readAll_of_yields` — the fuel of `readAll` suffices, as every frame takes a byte at least.

An attempt depends on the bytes that are delivered and not on the pieces, so everything is stated of
a source that delivers certain bytes. What an attempt does is said twice: by what the header tells
(`read_of_length`), for bytes that need not come from a writer, and by the payload that was written
(`read_of_header`). `Yields` collects attempts up to the first that gives no payload, and is what
the inductions are on.
-/

namespace Switchyard.Frame

open Switchyard.Stream (Source Sink Delivers bytesOf)

variable {limit k : Nat} {payload bytes behind : Octets} {payloads : List Octets}
variable {source rest : Source} {e : Option Error}

/-! ### Writing -/

/-- Sends frames one after another, up to the first that cannot be sent. -/
def writeAll : List Octets → Sink → Except Error Unit × Sink
  | [], sink => (.ok (), sink)
  | payload :: more, sink =>
    match write payload sink with
    | (.error e, sink) => (.error e, sink)
    | (.ok (), sink) => writeAll more sink

theorem write_eq_ok (h : payload.length < 0x100000000) {sink : Sink} (hroom : sink.room = none)
    (hflush : sink.flushError = none) :
    write payload sink = (.ok (), { sink with written := sink.written ++ encode payload }) := by
  unfold write
  rw [if_neg (Nat.not_le.mpr h)]
  simp only [Sink.writeAll, Sink.flush, hroom, hflush, encode, List.append_assoc]

/-- A sink that takes everything takes the bytes of all frames. -/
theorem writeAll_eq_ok (h : ∀ payload ∈ payloads, payload.length < 0x100000000) (sink : Sink)
    (hroom : sink.room = none) (hflush : sink.flushError = none) :
    writeAll payloads sink =
      (.ok (), { sink with written := sink.written ++ payloads.flatMap encode }) := by
  induction payloads generalizing sink with
  | nil => rw [writeAll, List.flatMap_nil, List.append_nil]
  | cons payload more ih =>
      obtain ⟨hpayload, hmore⟩ := List.forall_mem_cons.mp h
      rw [writeAll, write_eq_ok hpayload hroom hflush]
      dsimp only
      rw [ih hmore { sink with written := sink.written ++ encode payload } hroom hflush,
        List.flatMap_cons, List.append_assoc]

/-! ### Attempts to read -/

/-- What attempts to read, one after another, give: these payloads, and then the end of the stream
or an error. It needs no fuel; that `readAll` gives itself enough is shown apart. -/
inductive Yields (limit : Nat) : Source → List Octets → Option Error → Prop
  | ended {source rest : Source} (h : read limit source = .ok (none, rest)) :
      Yields limit source [] none
  | failed {source : Source} {e : Error} (h : read limit source = .error e) :
      Yields limit source [] (some e)
  | frame {source rest : Source} {payload : Octets} {payloads : List Octets} {e : Option Error}
      (h : read limit source = .ok (some payload, rest)) (more : Yields limit rest payloads e) :
      Yields limit source (payload :: payloads) e

/-- An attempt that finds something of a header. The tests are in the order of the code: the header
is whole, the length is allowed, the payload is whole. -/
theorem read_of_start {start : Octets} {mid : Source} (hne : start ≠ [])
    (h : Stream.readFull headerSize source = .ok (start, mid)) :
    read limit source =
      if start.length < headerSize then .error (.truncated start.length headerSize)
      else if limit < Octets.ofLittleEndian start then
        .error (.tooLarge (Octets.ofLittleEndian start) limit)
      else
        match Stream.readFull (Octets.ofLittleEndian start) mid with
        | .error e => .error (.stream e)
        | .ok (payload, rest) =>
          if payload.length < Octets.ofLittleEndian start then
            .error (.truncated payload.length (Octets.ofLittleEndian start))
          else .ok (some payload, rest) := by
  unfold read
  rw [h]
  cases start with
  | nil => exact absurd rfl hne
  | cons b start => rfl

/-- A payload that was read stood behind a header, and the other bytes are left. So every attempt
that gives a payload takes some bytes. -/
theorem bytesOf_of_read (h : read limit source = .ok (some payload, rest)) :
    ∃ start, start ≠ [] ∧ bytesOf source = start ++ payload ++ bytesOf rest := by
  cases hfull : Stream.readFull headerSize source with
  | error e =>
      unfold read at h
      rw [hfull] at h
      cases h
  | ok found =>
      obtain ⟨start, mid⟩ := found
      by_cases hne : start = []
      · unfold read at h
        rw [hfull, hne] at h
        cases h
      · rw [read_of_start hne hfull] at h
        split at h
        · cases h
        split at h
        · cases h
        split at h
        · cases h
        · rename_i got left hbody
          split at h
          · cases h
          · cases h
            refine ⟨start, hne, ?_⟩
            rw [List.append_assoc, Stream.append_of_readFull hbody,
              Stream.append_of_readFull hfull]

/-- The fuel that `readAll` gives itself is enough: it is the number of bytes and one more, and a
frame is never empty. -/
theorem readFrames_of_yields (h : Yields limit source payloads e) {fuel : Nat}
    (hfuel : (bytesOf source).length < fuel) : readFrames limit fuel source = (payloads, e) := by
  induction h generalizing fuel with
  | ended h =>
      obtain ⟨fuel, rfl⟩ := Nat.exists_eq_add_one_of_ne_zero (Nat.ne_zero_of_lt hfuel)
      rw [readFrames, h]
  | failed h =>
      obtain ⟨fuel, rfl⟩ := Nat.exists_eq_add_one_of_ne_zero (Nat.ne_zero_of_lt hfuel)
      rw [readFrames, h]
  | frame h more ih =>
      obtain ⟨fuel, rfl⟩ := Nat.exists_eq_add_one_of_ne_zero (Nat.ne_zero_of_lt hfuel)
      obtain ⟨start, hne, hbytes⟩ := bytesOf_of_read h
      have hpos := List.length_pos_iff.mpr hne
      rw [hbytes, List.length_append, List.length_append] at hfuel
      have hmore := @ih fuel (by omega)
      rw [readFrames, h]
      simp only [hmore]

theorem readAll_of_yields (h : Yields limit source payloads e) :
    readAll limit source = (payloads, e) := by
  unfold readAll
  rw [Stream.pendingBytes_eq]
  exact readFrames_of_yields h (Nat.lt_succ_self _)

/-! ### Deliveries of the same bytes -/

/-- One attempt at two deliveries of the same bytes: the same error, or the same payload or end and
the same bytes left. What it says of the bytes left is what the next attempt needs. -/
theorem read_of_same (limit : Nat) {source' : Source} (h : Delivers bytes source)
    (h' : Delivers bytes source') :
    (∃ e, read limit source = .error e ∧ read limit source' = .error e) ∨
      ∃ found left rest rest', read limit source = .ok (found, rest) ∧
        read limit source' = .ok (found, rest') ∧ Delivers left rest ∧ Delivers left rest' := by
  obtain ⟨mid, hread, hmid⟩ := Stream.readFull_of_delivers h headerSize
  obtain ⟨mid', hread', hmid'⟩ := Stream.readFull_of_delivers h' headerSize
  by_cases hne : bytes.take headerSize = []
  · right
    refine ⟨none, _, mid, mid', ?_, ?_, hmid, hmid'⟩
    · unfold read
      rw [hread, hne]
    · unfold read
      rw [hread', hne]
  · rw [read_of_start hne hread, read_of_start hne hread']
    split
    · exact .inl ⟨_, rfl, rfl⟩
    split
    · exact .inl ⟨_, rfl, rfl⟩
    obtain ⟨rest, hbody, hrest⟩ := Stream.readFull_of_delivers hmid
      (Octets.ofLittleEndian (bytes.take headerSize))
    obtain ⟨rest', hbody', hrest'⟩ := Stream.readFull_of_delivers hmid'
      (Octets.ofLittleEndian (bytes.take headerSize))
    simp only [hbody, hbody']
    split
    · exact .inl ⟨_, rfl, rfl⟩
    · exact .inr ⟨_, _, rest, rest', rfl, rfl, hrest, hrest'⟩

theorem error_of_same {source' : Source} {x : Error} (h : Delivers bytes source)
    (h' : Delivers bytes source') (hread : read limit source = .error x) :
    read limit source' = .error x := by
  rcases read_of_same limit h h' with ⟨y, hy, hy'⟩ | ⟨found, left, mid, mid', hok, -, -, -⟩
  · rw [hread] at hy
    cases hy
    exact hy'
  · rw [hread] at hok
    cases hok

theorem found_of_same {source' : Source} {found : Option Octets} (h : Delivers bytes source)
    (h' : Delivers bytes source') (hread : read limit source = .ok (found, rest)) :
    ∃ left rest', read limit source' = .ok (found, rest') ∧ Delivers left rest ∧
      Delivers left rest' := by
  rcases read_of_same limit h h' with ⟨y, hy, -⟩ | ⟨found', left, mid, mid', hok, hok', hmid, hmid'⟩
  · rw [hread] at hy
    cases hy
  · rw [hread] at hok
    cases hok
    exact ⟨left, mid', hok', hmid, hmid'⟩

/-- What comes of a delivery depends on its bytes only. -/
theorem yields_of_same (h : Yields limit source payloads e) {source' : Source}
    (hsource : Delivers bytes source) (hsource' : Delivers bytes source') :
    Yields limit source' payloads e := by
  induction h generalizing source' bytes with
  | ended hread =>
      obtain ⟨left, rest', hread', -, -⟩ := found_of_same hsource hsource' hread
      exact .ended hread'
  | failed hread => exact .failed (error_of_same hsource hsource' hread)
  | frame hread more ih =>
      obtain ⟨left, rest', hread', hrest, hrest'⟩ := found_of_same hsource hsource' hread
      exact .frame hread' (ih hrest hrest')

/-! ### Whole frames and parts of frames -/

@[simp] theorem length_header (payload : Octets) : (header payload).length = headerSize :=
  Octets.length_littleEndian headerSize payload.length

@[simp] theorem length_encode (payload : Octets) :
    (encode payload).length = headerSize + payload.length := by
  rw [encode, List.length_append, length_header]

/-- The header tells the length of the payload. -/
theorem ofLittleEndian_header (h : payload.length < 0x100000000) :
    Octets.ofLittleEndian (header payload) = payload.length := by
  rw [header, Octets.ofLittleEndian_littleEndian]
  exact Nat.mod_eq_of_lt h

/-- A reader of frames takes a payload, and can be told its length. The limit is the reader's, the
other bound that of a length of four bytes. -/
def Fits (limit : Nat) (payload : Octets) : Prop :=
  payload.length ≤ limit ∧ payload.length < 0x100000000

/-- An attempt that finds a whole header goes by the length that it tells. There may be fewer bytes
behind it than that, or more. -/
theorem read_of_length (limit : Nat) {size : Nat} (hsize : size < 0x100000000)
    (h : Delivers (Octets.littleEndian headerSize size ++ bytes) source) :
    ∃ rest, Delivers (bytes.drop size) rest ∧ read limit source =
      if limit < size then .error (.tooLarge size limit)
      else if (bytes.take size).length < size then
        .error (.truncated (bytes.take size).length size)
      else .ok (some (bytes.take size), rest) := by
  have hlength : (Octets.littleEndian headerSize size).length = headerSize :=
    Octets.length_littleEndian headerSize size
  obtain ⟨mid, hread, hmid⟩ := Stream.readFull_of_delivers h headerSize
  rw [List.take_left' hlength] at hread
  rw [List.drop_left' hlength] at hmid
  obtain ⟨rest, hbody, hrest⟩ := Stream.readFull_of_delivers hmid size
  refine ⟨rest, hrest, ?_⟩
  have hne : Octets.littleEndian headerSize size ≠ [] := by
    rw [← List.length_pos_iff, hlength]
    decide
  have hback : Octets.ofLittleEndian (Octets.littleEndian headerSize size) = size := by
    rw [Octets.ofLittleEndian_littleEndian]
    exact Nat.mod_eq_of_lt hsize
  rw [read_of_start hne hread, hback, hlength, if_neg (Nat.lt_irrefl _), hbody]

/-- An attempt that finds the header of a payload goes on with the payload. -/
theorem read_of_header (hfits : Fits limit payload)
    (h : Delivers (header payload ++ bytes) source) :
    ∃ rest, Delivers (bytes.drop payload.length) rest ∧ read limit source =
      if (bytes.take payload.length).length < payload.length then
        .error (.truncated (bytes.take payload.length).length payload.length)
      else .ok (some (bytes.take payload.length), rest) := by
  obtain ⟨rest, hrest, hread⟩ := read_of_length limit hfits.2 h
  rw [if_neg (Nat.not_lt.mpr hfits.1)] at hread
  exact ⟨rest, hrest, hread⟩

/-- A whole frame gives its payload, and what stands behind it is left. -/
theorem read_of_frame (hfits : Fits limit payload)
    (h : Delivers (encode payload ++ behind) source) :
    ∃ rest, read limit source = .ok (some payload, rest) ∧ Delivers behind rest := by
  rw [encode, List.append_assoc] at h
  obtain ⟨rest, hrest, hread⟩ := read_of_header hfits h
  rw [List.take_left, if_neg (Nat.lt_irrefl _)] at hread
  rw [List.drop_left] at hrest
  exact ⟨rest, hread, hrest⟩

/-- How a stream ends that is cut after `k` bytes of the frame of a payload: cleanly, inside the
header, or inside the payload. The error says how much came of how much. -/
def ending (payload : Octets) (k : Nat) : Option Error :=
  if k = 0 then none
  else if k < headerSize then some (.truncated k headerSize)
  else some (.truncated (k - headerSize) payload.length)

/-- A part of a frame gives no payload, and the error that `ending` says, or none if the part is
empty. -/
theorem yields_of_cut (hfits : Fits limit payload) (hk : k < (encode payload).length)
    (h : Delivers ((encode payload).take k) source) :
    Yields limit source [] (ending payload k) := by
  unfold ending
  by_cases hlt : k < headerSize
  · -- The header itself is cut, or there is nothing of it.
    have hstart : ((encode payload).take k).length = k := List.length_take_of_le (Nat.le_of_lt hk)
    obtain ⟨mid, hread, -⟩ := Stream.readFull_of_delivers h headerSize
    rw [List.take_take, Nat.min_eq_right (Nat.le_of_lt hlt)] at hread
    by_cases hzero : k = 0
    · subst hzero
      have hend : read limit source = .ok (none, mid) := by
        unfold read
        rw [hread, List.take_zero]
      rw [if_pos rfl]
      exact .ended hend
    · have hne : (encode payload).take k ≠ [] := by
        rw [← List.length_pos_iff, hstart]
        exact Nat.pos_of_ne_zero hzero
      rw [if_neg hzero, if_pos hlt]
      refine .failed ?_
      rw [read_of_start hne hread, hstart, if_pos hlt]
  · have hle : headerSize ≤ k := Nat.not_lt.mp hlt
    have hzero : k ≠ 0 := by
      rintro rfl
      exact hlt (by decide)
    -- The header is there and tells the length of a payload that is cut.
    have hshort : k - headerSize < payload.length := by
      rw [length_encode] at hk
      omega
    have hpart : (payload.take (k - headerSize)).length = k - headerSize :=
      List.length_take_of_le (Nat.le_of_lt hshort)
    rw [encode, List.take_append, length_header,
      List.take_of_length_le ((length_header payload).symm ▸ hle)] at h
    obtain ⟨rest, -, hread⟩ := read_of_header hfits h
    rw [List.take_take, Nat.min_eq_right (Nat.le_of_lt hshort), hpart, if_pos hshort] at hread
    rw [if_neg hzero, if_neg hlt]
    exact .failed hread

/-- Whole frames give their payloads, before anything that may stand behind them. By induction on
the frames. -/
theorem yields_of_frames {done : List Octets} (hdone : ∀ payload ∈ done, Fits limit payload)
    (h : Delivers (done.flatMap encode ++ behind) source)
    (hbehind : ∀ rest, Delivers behind rest → Yields limit rest payloads e) :
    Yields limit source (done ++ payloads) e := by
  induction done generalizing source with
  | nil => exact hbehind source h
  | cons payload done ih =>
      obtain ⟨hfits, hdone⟩ := List.forall_mem_cons.mp hdone
      rw [List.flatMap_cons, List.append_assoc] at h
      obtain ⟨rest, hread, hrest⟩ := read_of_frame hfits h
      exact .frame hread (ih hdone hrest)

theorem yields_of_nothing (h : Delivers [] source) : Yields limit source [] none := by
  obtain ⟨rest, hread, -⟩ := Stream.readFull_of_delivers h headerSize
  have hend : read limit source = .ok (none, rest) := by
    unfold read
    rw [hread, List.take_nil]
  exact .ended hend

/-! ### All frames -/

/-- **Frames are read back.** What is written of these payloads, in whatever pieces it comes and
however often its reader is interrupted, gives these payloads in order, and then the end. If the
stream is cut anywhere, it gives the payloads of the frames before the cut, and then ends as the
cut is: cleanly between two frames, and with the number of bytes that came of a header or a payload
inside one. Any two deliveries of the same bytes, whatever they hold, give the same. -/
theorem frames_read_back (limit : Nat) (payloads : List Octets)
    (hfits : ∀ payload ∈ payloads, payload.length ≤ limit ∧ payload.length < 0x100000000) :
    ∃ written, writeAll payloads .unbounded = (.ok (), { Sink.unbounded with written }) ∧
      (∀ source, Delivers written source →
        Yields limit source payloads none ∧ readAll limit source = (payloads, none)) ∧
      (∀ k < written.length, ∃ done payload more j, payloads = done ++ payload :: more ∧
        k = (done.flatMap encode).length + j ∧ j < (encode payload).length ∧
        ∀ source, Delivers (written.take k) source →
          Yields limit source done (ending payload j) ∧
            readAll limit source = (done, ending payload j)) ∧
      (∀ bytes source source', Delivers bytes source → Delivers bytes source' →
        ∀ found e, Yields limit source found e ↔ Yields limit source' found e) := by
  refine ⟨payloads.flatMap encode, writeAll_eq_ok (fun p hp => (hfits p hp).2) .unbounded rfl rfl,
    ?_, ?_, ?_⟩
  · intro source hsource
    rw [← List.append_nil (payloads.flatMap encode)] at hsource
    have hyields : Yields limit source payloads none := by
      rw [← List.append_nil payloads]
      exact yields_of_frames hfits hsource fun rest => yields_of_nothing
    exact ⟨hyields, readAll_of_yields hyields⟩
  · intro k hk
    obtain ⟨done, payload, more, j, hpayloads, hlength, hj, htake⟩ :=
      Octets.exists_cut encode payloads hk
    refine ⟨done, payload, more, j, hpayloads, hlength, hj, ?_⟩
    intro source hsource
    rw [htake] at hsource
    obtain ⟨hdone, hmore⟩ := List.forall_mem_append.mp (hpayloads ▸ hfits)
    have hpayload := hmore payload List.mem_cons_self
    have hyields : Yields limit source done (ending payload j) := by
      rw [← List.append_nil done]
      exact yields_of_frames hdone hsource fun rest => yields_of_cut hpayload hj
    exact ⟨hyields, readAll_of_yields hyields⟩
  · intro bytes source source' h h' found e
    exact ⟨fun hyields => yields_of_same hyields h h', fun hyields => yields_of_same hyields h' h⟩

/-- No payload, and one that is as long as the limit. -/
theorem frames_read_back_at_limit :
    (∀ payload ∈ [[], [1, 2, 3]], payload.length ≤ 3 ∧ payload.length < 0x100000000) ∧
    ∃ written, writeAll [[], [1, 2, 3]] .unbounded = (.ok (), { Sink.unbounded with written }) ∧
      (∀ source, Delivers written source →
        Yields 3 source [[], [1, 2, 3]] none ∧ readAll 3 source = ([[], [1, 2, 3]], none)) ∧
      (∀ k < written.length, ∃ done payload more j, [[], [1, 2, 3]] = done ++ payload :: more ∧
        k = (done.flatMap encode).length + j ∧ j < (encode payload).length ∧
        ∀ source, Delivers (written.take k) source →
          Yields 3 source done (ending payload j) ∧
            readAll 3 source = (done, ending payload j)) ∧
      (∀ bytes source source', Delivers bytes source → Delivers bytes source' →
        ∀ found e, Yields 3 source found e ↔ Yields 3 source' found e) :=
  ⟨by decide, frames_read_back 3 [[], [1, 2, 3]] (by decide)⟩

/-- A stream that ends inside the second payload, in pieces that do not respect the frames. -/
example :
    readAll 3 [.bytes [0, 0], .failure .interrupted, .bytes [0, 0, 3, 0, 0], .bytes [0, 1, 2]] =
      ([[]], some (.truncated 2 3)) := by
  rfl

end Switchyard.Frame
