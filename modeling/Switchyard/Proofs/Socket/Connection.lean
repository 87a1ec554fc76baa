import Switchyard.Proofs.Frame
import Switchyard.Proofs.Route.Answer
import Switchyard.Socket.Connection

/-!
# Switchyard.Proofs.Socket.Connection

**One request for each connection** (`one_request_per_connection`): a connection is served by the
first frame that a client sends, or not at all.

* `Opens` — what the bytes of a client begin with, told from the bytes alone. All bytes open in one
  way (`exists_opens`), and a reader finds it in any delivery of them (`read_of_opens`).
* `serveWithin_of_opens` — what comes of a connection, for each way to open.

The five ways to open are told without a reader, so that the result can say in terms of bytes alone
what a client gets. A frame is one of them only if it fits the limit, and a whole frame that does
not is taken for one that is too large as soon as its length is known.
-/

namespace Switchyard.Socket

open Switchyard.Frame (Fits headerSize)
open Switchyard.Stream (Source Sink Delivers)
open Route

variable {limit : Nat} {bytes : Octets} {source : Source}

/-! ### The first frame -/

/-- What the bytes of a client begin with: nothing at all, a frame that the reader takes, or
something that it drops. The index is what the reader makes of it. -/
inductive Opens (limit : Nat) : Octets → Except Frame.Error (Option Octets) → Prop
  | nothing : Opens limit [] (.ok none)
  /-- The bytes end inside the length of a frame. -/
  | cutHeader {bytes : Octets} (hne : bytes ≠ []) (h : bytes.length < headerSize) :
      Opens limit bytes (.error (.truncated bytes.length headerSize))
  /-- The frame is announced to be longer than the reader allows. -/
  | tooLarge {size : Nat} {behind : Octets} (hsize : size < 0x100000000) (h : limit < size) :
      Opens limit (Octets.littleEndian headerSize size ++ behind) (.error (.tooLarge size limit))
  /-- The bytes end inside the payload of a frame. -/
  | cutPayload {size : Nat} {part : Octets} (hsize : size < 0x100000000) (hle : size ≤ limit)
      (h : part.length < size) :
      Opens limit (Octets.littleEndian headerSize size ++ part)
        (.error (.truncated part.length size))
  /-- A whole frame, whatever stands behind it. -/
  | frame {payload behind : Octets} (hfits : Fits limit payload) :
      Opens limit (Frame.encode payload ++ behind) (.ok (some payload))

/-- All bytes open in one way or another. The length in the header decides between the last three,
so it is first written back as the header that it was read from. -/
theorem exists_opens (limit : Nat) (bytes : Octets) : ∃ x, Opens limit bytes x := by
  by_cases hempty : bytes = []
  · subst hempty
    exact ⟨_, .nothing⟩
  by_cases hshort : bytes.length < headerSize
  · exact ⟨_, .cutHeader hempty hshort⟩
  -- There is a whole header; it tells the length of what should follow.
  have hstart : (bytes.take headerSize).length = headerSize :=
    List.length_take_of_le (Nat.not_lt.mp hshort)
  have hsize : Octets.ofLittleEndian (bytes.take headerSize) < 0x100000000 := by
    have hlt := Octets.ofLittleEndian_lt (bytes.take headerSize)
    rwa [hstart] at hlt
  have hheader : Octets.littleEndian headerSize (Octets.ofLittleEndian (bytes.take headerSize)) =
      bytes.take headerSize := by
    have hback := Octets.littleEndian_ofLittleEndian (bytes.take headerSize)
    rwa [hstart] at hback
  rw [← List.take_append_drop headerSize bytes, ← hheader]
  generalize Octets.ofLittleEndian (bytes.take headerSize) = size at hsize
  generalize bytes.drop headerSize = body
  by_cases hlimit : limit < size
  · exact ⟨_, .tooLarge hsize hlimit⟩
  by_cases hcut : body.length < size
  · exact ⟨_, .cutPayload hsize (Nat.not_lt.mp hlimit) hcut⟩
  · have hpayload : (body.take size).length = size :=
      List.length_take_of_le (Nat.not_lt.mp hcut)
    have hfits : Fits limit (body.take size) :=
      ⟨hpayload.symm ▸ Nat.not_lt.mp hlimit, hpayload.symm ▸ hsize⟩
    have hframe : Octets.littleEndian headerSize size ++ body =
        Frame.encode (body.take size) ++ body.drop size := by
      rw [Frame.encode, Frame.header, hpayload, List.append_assoc, List.take_append_drop]
    rw [hframe]
    exact ⟨_, .frame hfits⟩

/-- A reader finds what the bytes open with, in whatever pieces they come: one case for each way to
open. -/
theorem read_of_opens {x : Except Frame.Error (Option Octets)} (hopens : Opens limit bytes x)
    (h : Delivers bytes source) :
    (Frame.read limit source).map (·.1) = x := by
  cases hopens with
  | nothing =>
      obtain ⟨rest, hread, -⟩ := Stream.readFull_of_delivers h headerSize
      unfold Frame.read
      rw [hread]
      rfl
  | cutHeader hne hshort =>
      obtain ⟨rest, hread, -⟩ := Stream.readFull_of_delivers h headerSize
      rw [List.take_of_length_le (Nat.le_of_lt hshort)] at hread
      rw [Frame.read_of_start hne hread, if_pos hshort]
      rfl
  | tooLarge hsize hlimit =>
      obtain ⟨rest, -, hread⟩ := Frame.read_of_length limit hsize h
      rw [hread, if_pos hlimit]
      rfl
  | cutPayload hsize hle hcut =>
      obtain ⟨rest, -, hread⟩ := Frame.read_of_length limit hsize h
      rw [List.take_of_length_le (Nat.le_of_lt hcut)] at hread
      rw [hread, if_neg (Nat.not_lt.mpr hle), if_pos hcut]
      rfl
  | frame hfits =>
      obtain ⟨rest, hread, -⟩ := Frame.read_of_frame hfits h
      rw [hread]
      rfl

/-! ### Connections -/

/-- What comes of a connection whose bytes open in this way: nothing, or what comes of one
request. -/
def outcome (r : Registry) : Except Frame.Error (Option Octets) → Served
  | .ok none => ⟨none, none, [], r, 0⟩
  | .error e => ⟨none, some e, [], r, 0⟩
  | .ok (some payload) =>
    ⟨some (dispatchBytes r payload).reply.octets, none, (dispatchBytes r payload).notices,
      (dispatchBytes r payload).registry, (dispatchBytes r payload).duration⟩

theorem serveWithin_of_opens {x : Except Frame.Error (Option Octets)}
    (hopens : Opens limit bytes x) (h : Delivers bytes source) (r : Registry) :
    serveWithin limit r source = outcome r x := by
  have hread := read_of_opens hopens h
  unfold serveWithin
  cases hfound : Frame.read limit source with
  | error e =>
      rw [hfound] at hread
      cases hread
      rfl
  | ok found =>
      rw [hfound] at hread
      cases hread
      obtain ⟨payload, rest⟩ := found
      cases payload <;> rfl

/-- A connection without a reply writes nothing. -/
theorem send_of_no_reply {s : Served} (h : s.reply = none) (client : Sink) :
    s.send client = (.ok (), client) := by
  unfold Served.send
  rw [h]

/-- A connection with a reply writes its frame. -/
theorem send_of_reply {s : Served} {reply : Octets} (h : s.reply = some reply)
    (hlength : reply.length < 0x100000000) {client : Sink} (hroom : client.room = none)
    (hflush : client.flushError = none) :
    s.send client = (.ok (), { client with written := client.written ++ Frame.encode reply }) := by
  unfold Served.send
  rw [h]
  exact Frame.write_eq_ok hlength hroom hflush

/-- **One request for each connection.** Let a client send any bytes, in any pieces.

Where they do not begin with a whole frame of at most `limit` bytes, for one of the reasons of
`Opens`, nothing is written, no handler is called, no module changes and nothing is notified.

Where they do, the connection does what the payload of this frame alone asks for, and writes the
reply as one frame to a client that takes it. What stands behind the frame does not appear in any of
this.

That no handler is called is told by a registry that records its calls: it is what it was. -/
theorem one_request_per_connection (limit : Nat) (r : Registry) (h : Delivers bytes source) :
    ((∀ payload behind, Fits limit payload → bytes ≠ Frame.encode payload ++ behind) →
      (∃ x, Opens limit bytes x ∧ (∀ payload, x ≠ .ok (some payload)) ∧
        serveWithin limit r source = outcome r x) ∧
      (serveWithin limit r source).notices = [] ∧ (serveWithin limit r source).registry = r ∧
      (∀ log, (serveWithin limit (r.recorded log) source).registry = r.recorded log) ∧
      ∀ client, (serveWithin limit r source).send client = (.ok (), client)) ∧
    (∀ payload behind, Fits limit payload → bytes = Frame.encode payload ++ behind →
      serveWithin limit r source =
        ⟨some (dispatchBytes r payload).reply.octets, none, (dispatchBytes r payload).notices,
          (dispatchBytes r payload).registry, (dispatchBytes r payload).duration⟩ ∧
      ∀ client : Sink, client.room = none → client.flushError = none →
        (dispatchBytes r payload).reply.octets.length < 0x100000000 →
        (serveWithin limit r source).send client =
          (.ok (), { client with
            written := client.written ++ Frame.encode (dispatchBytes r payload).reply.octets })) := by
  refine ⟨?_, ?_⟩
  · intro hnone
    obtain ⟨x, hopens⟩ := exists_opens limit bytes
    have hno : ∀ payload, x ≠ .ok (some payload) := by
      rintro payload rfl
      cases hopens with
      | frame hfits => exact hnone payload _ hfits rfl
    -- For any registry, since what is said of calls is said of one that records them.
    have hidle (r : Registry) : (outcome r x).reply = none ∧ (outcome r x).notices = [] ∧
        (outcome r x).registry = r := by
      match x, hno with
      | .ok none, _ => exact ⟨rfl, rfl, rfl⟩
      | .error e, _ => exact ⟨rfl, rfl, rfl⟩
      | .ok (some payload), hno => exact absurd rfl (hno payload)
    have hserved (r : Registry) := serveWithin_of_opens hopens h r
    obtain ⟨hreply, hnotices, hregistry⟩ := hidle r
    refine ⟨⟨x, hopens, hno, hserved r⟩, ?_, ?_, ?_, ?_⟩
    · rw [hserved, hnotices]
    · rw [hserved, hregistry]
    · intro log
      rw [hserved, (hidle (r.recorded log)).2.2]
    · exact send_of_no_reply (by rw [hserved, hreply])
  · rintro payload behind hfits rfl
    have hserved := serveWithin_of_opens (.frame hfits) h r
    refine ⟨hserved, ?_⟩
    intro client hroom hflush hlength
    exact send_of_reply (by rw [hserved]; rfl) hlength hroom hflush

/-- An empty object, in pieces that do not respect the frame, and two bytes behind it. -/
def emptyRequest : Source :=
  [.bytes [2, 0], .failure .interrupted, .bytes [0, 0, 123], .bytes [125, 9, 9]]

theorem one_request_per_connection_emptyRequest :
    Delivers [2, 0, 0, 0, 123, 125, 9, 9] emptyRequest ∧
      (serveWithin 2 [] emptyRequest).reply =
        some (dispatchBytes [] [123, 125]).reply.octets ∧
      ∀ client, (serveWithin 1 [] emptyRequest).send client = (.ok (), client) := by
  have hdelivers : Delivers [2, 0, 0, 0, 123, 125, 9, 9] emptyRequest := by
    refine ⟨?_, rfl⟩
    simp [emptyRequest, Stream.Steady, Stream.Arrival.Steady]
  refine ⟨hdelivers, ?_, ?_⟩
  · have hframe := (one_request_per_connection 2 [] hdelivers).2 [123, 125] [9, 9]
      ⟨by decide, by decide⟩ rfl
    rw [hframe.1]
  · refine ((one_request_per_connection 1 [] hdelivers).1 ?_).2.2.2.2
    intro payload behind hfits heq
    -- The length that is announced is two, so the payload would have two bytes.
    have hlength : (Frame.header payload) = [2, 0, 0, 0] := by
      have htake := congrArg (List.take headerSize) heq
      rw [Frame.encode, List.append_assoc, List.take_left' (Frame.length_header payload)] at htake
      exact htake.symm
    have htwo := Frame.ofLittleEndian_header hfits.2
    rw [hlength] at htwo
    have hone := hfits.1
    rw [← htwo] at hone
    exact absurd hone (by decide)

end Switchyard.Socket
