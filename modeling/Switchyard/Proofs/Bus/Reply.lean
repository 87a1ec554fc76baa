import Switchyard.Bus.Worker
import Switchyard.Proofs.Bus.Message
import Switchyard.Proofs.Call.Chunks
import Switchyard.Proofs.Json.Printer

/-!
# Switchyard.Proofs.Bus.Reply

**A reply arrives whole** (`reply_read_back`). However large it is and whatever text it holds, the
messages that carry it can all be written, and from any steady delivery of their bytes they are read
back as parts that hold the chunks of the reply, then an end with the status.

Three bounds and one property of printed text meet here:

* a chunk is at most 512 KiB, so that its field fits 24 bits of length and its message the limit of
  a reader (`fits_partMessage`);
* the text of a reply has no zero, which would end the text of a field (`carried_of_mem_chunks`).
-/

namespace Switchyard.Bus

/-! ### What a message tells -/

namespace Message

variable (m : Message)

/-- The number of the object that a message names. -/
def object : Except Error UInt32 :=
  m.attributes.bind (wordOf objectId)

/-- The status that a message carries. -/
def status : Except Error UInt32 :=
  m.attributes.bind (wordOf statusId)

/-- The table that a message carries. -/
def table : Except Error Json.Members :=
  m.attributes.bind (tableOf dataId)

theorem attributes_of {items : List Item} (h : ∀ item ∈ items, item.toAttribute.Fits) (kind : Kind)
    (seq : UInt16) (peer : UInt32) :
    (of kind seq peer items).attributes = .ok (items.map Item.toAttribute) :=
  Item.parseAll_body h

end Message

theorem object_of {m : Message} {as : List Attribute} (h : m.attributes = .ok as) :
    m.object = wordOf objectId as := by
  unfold Message.object
  rw [h]
  rfl

theorem status_of {m : Message} {as : List Attribute} (h : m.attributes = .ok as) :
    m.status = wordOf statusId as := by
  unfold Message.status
  rw [h]
  rfl

theorem table_of {m : Message} {as : List Attribute} (h : m.attributes = .ok as) :
    m.table = tableOf dataId as := by
  unfold Message.table
  rw [h]
  rfl

theorem find?_cons_self (a : Attribute) (as : List Attribute) :
    Attribute.find? a.id (a :: as) = some a :=
  List.find?_cons_of_pos (by simp)

theorem find?_cons_ne {id : UInt8} {a : Attribute} (h : a.id ≠ id) (as : List Attribute) :
    Attribute.find? id (a :: as) = Attribute.find? id as :=
  List.find?_cons_of_neg (by simpa using h)

/-- A number that was written is read back. The attribute stands first; others behind it are not
looked at. -/
theorem wordOf_word_self (id : UInt8) (n : UInt32) (as : List Attribute) :
    wordOf id ((Item.word id n).toAttribute :: as) = .ok n := by
  have hfind : Attribute.find? id ((Item.word id n).toAttribute :: as) =
      some ⟨id, false, Octets.bigEndian 4 n.toNat⟩ := find?_cons_self _ _
  have hlt : n.toNat < 256 ^ 4 := n.toNat_lt
  have hnumber : leadingNumber 4 (Octets.bigEndian 4 n.toNat) = .ok n.toNat := by
    have happend := leadingNumber_append 4 n.toNat []
    rwa [List.append_nil, Nat.mod_eq_of_lt hlt] at happend
  unfold wordOf
  simp only [hfind, hnumber, Except.map, UInt32.ofNat_toNat]

theorem wordOf_word_ne {id other : UInt8} (h : other ≠ id) (n : UInt32) (as : List Attribute) :
    wordOf id ((Item.word other n).toAttribute :: as) = wordOf id as := by
  unfold wordOf
  rw [find?_cons_ne h]

theorem tableOf_cons_ne {id : UInt8} {a : Attribute} (h : a.id ≠ id) (as : List Attribute) :
    tableOf id (a :: as) = tableOf id as := by
  unfold tableOf
  rw [find?_cons_ne h]

theorem tableOf_nested_self (id : UInt8) (items : List Item) (as : List Attribute) :
    tableOf id ((Item.nested id items).toAttribute :: as) = readTable (Item.body items) := by
  have hfind : Attribute.find? id ((Item.nested id items).toAttribute :: as) =
      some ⟨id, false, Item.body items⟩ := find?_cons_self _ _
  unfold tableOf
  rw [hfind]

theorem fits_word (id : UInt8) (hid : id.toNat < 128) (n : UInt32) :
    (Item.word id n).toAttribute.Fits where
  id_lt := hid
  length_lt := by
    simp only [Item.word, Item.toAttribute, Octets.length_bigEndian, wordSize]
    omega

theorem length_word (id : UInt8) (n : UInt32) : (Item.word id n).octets.length = 8 := by
  rw [Item.word, Item.octets, Attribute.length_write, Octets.length_bigEndian]
  rfl

/-! ### The end of an answer -/

/-- A status that ends the answer to a message. It has the number of the message and goes to the
peer that sent it. -/
structure Concludes (code : UInt32) (m answer : Message) : Prop where
  kind : answer.kind = .status
  seq : answer.seq = m.seq
  peer : answer.peer = m.peer
  status : answer.status = .ok code

/-- A message that ends the answer to a call with a status. Unlike `Concludes` it names the object
of the call as well. -/
structure IsEnd (call : Invocation) (code : UInt32) (m : Message) : Prop where
  kind : m.kind = .status
  seq : m.seq = call.seq
  peer : m.peer = call.peer
  object : m.object = .ok call.object
  status : m.status = .ok code

/-- The last message of an answer. -/
def lastMessage (call : Invocation) (code : UInt32) : Message :=
  .of .status call.seq call.peer [.word statusId code, .word objectId call.object]

theorem attributes_lastMessage (call : Invocation) (code : UInt32) :
    (lastMessage call code).attributes =
      .ok [(Item.word statusId code).toAttribute,
        (Item.word objectId call.object).toAttribute] := by
  apply Message.attributes_of
  simp only [List.forall_mem_cons]
  exact ⟨fits_word _ (by decide) _, fits_word _ (by decide) _, by simp⟩

theorem isEnd_lastMessage (call : Invocation) (code : UInt32) :
    IsEnd call code (lastMessage call code) := by
  refine ⟨rfl, rfl, rfl, ?_, ?_⟩
  · rw [object_of (attributes_lastMessage call code), wordOf_word_ne (by decide), wordOf_word_self]
  · rw [status_of (attributes_lastMessage call code), wordOf_word_self]

theorem fits_lastMessage (call : Invocation) (code : UInt32) : (lastMessage call code).Fits := by
  have hlength : (lastMessage call code).containerLength = 20 := by
    simp only [lastMessage, Message.of, Message.containerLength, Item.body, List.length_append,
      length_word, List.length_nil, wordSize]
  unfold Message.Fits
  rw [hlength]
  decide

/-! ### Parts of an answer -/

/-- A message with one chunk of the answer to a call. Its table has the chunk as its only field,
under the name `data`. -/
structure IsPart (call : Invocation) (text : String) (m : Message) : Prop where
  kind : m.kind = .data
  seq : m.seq = call.seq
  peer : m.peer = call.peer
  object : m.object = .ok call.object
  table : m.table = .ok [("data", .string text)]

/-- The message of a chunk. -/
def partMessage (call : Invocation) (text : String) : Message :=
  .of .data call.seq call.peer
    [.word objectId call.object, .nested dataId (Item.fields [("data", .string text)])]

/-- A chunk of which a message can be made: nothing of it is cut, and the message is not too long
for a reader. -/
structure Carried (text : String) : Prop where
  zeroFree : Utf8.ZeroFree text
  size_le : text.utf8ByteSize ≤ Call.chunkLimit

/-- The field of a chunk. -/
def chunkField (text : String) : Attribute :=
  fieldAttribute textType "data" (endedText text)

theorem shortName_data : ShortName "data" :=
  (shortName_iff _).mpr (by decide)

theorem length_chunkField (text : String) :
    (chunkField text).payload.length = 8 + (text.utf8ByteSize + 1) := by
  have hname : (nameHeader "data").length = 8 := length_nameHeader shortName_data
  unfold chunkField fieldAttribute endedText
  rw [List.length_append, hname, List.length_append, Utf8.length_encode, List.length_singleton]

theorem fits_chunkField {text : String} (h : Carried text) : (chunkField text).Fits where
  id_lt := show textType.toNat < 128 by decide
  length_lt := by
    have hsize : text.utf8ByteSize ≤ 524288 := h.size_le
    rw [length_chunkField, wordSize]
    omega

/-- The table of a part is the field of its chunk, and that is all of the table. -/
theorem body_chunk (text : String) :
    Item.body (Item.fields [("data", .string text)]) = (chunkField text).octets := by
  rw [Item.body_eq_octetsOf]
  exact List.append_nil _

theorem length_body_chunk (text : String) :
    (Item.body (Item.fields [("data", .string text)])).length =
      padded (text.utf8ByteSize + 13) := by
  rw [body_chunk, Attribute.length_octets, length_chunkField]
  congr 1
  simp only [wordSize]
  omega

theorem attributes_partMessage {text : String} (h : Carried text) (call : Invocation) :
    (partMessage call text).attributes =
      .ok [(Item.word objectId call.object).toAttribute,
        (Item.nested dataId (Item.fields [("data", .string text)])).toAttribute] := by
  apply Message.attributes_of
  simp only [List.forall_mem_cons]
  refine ⟨fits_word _ (by decide) _, ⟨show dataId.toNat < 128 by decide, ?_⟩, by simp⟩
  have hsize : text.utf8ByteSize ≤ 524288 := h.size_le
  have hlt := padded_lt (text.utf8ByteSize + 13)
  simp only [Item.toAttribute, length_body_chunk, wordSize]
  omega

theorem isPart_partMessage {text : String} (h : Carried text) (call : Invocation) :
    IsPart call text (partMessage call text) := by
  have hattributes := attributes_partMessage h call
  refine ⟨rfl, rfl, rfl, ?_, ?_⟩
  · rw [object_of hattributes, wordOf_word_self]
  · have hbody : Item.body (Item.fields [("data", .string text)]) =
        fieldOf "data" (.string text) := List.append_nil _
    rw [table_of hattributes, tableOf_cons_ne (by decide : objectId ≠ dataId),
      tableOf_nested_self, hbody]
    exact readTable_text shortName_data h.zeroFree (fits_chunkField h)

theorem fits_partMessage {text : String} (h : Carried text) (call : Invocation) :
    (partMessage call text).Fits := by
  have hsize : text.utf8ByteSize ≤ 524288 := h.size_le
  -- The chunk is padded in its table, and the table again in the message.
  have hinner := padded_lt (text.utf8ByteSize + 13)
  have houter := padded_lt (wordSize + padded (text.utf8ByteSize + 13))
  have hlength : (partMessage call text).containerLength =
      12 + padded (wordSize + padded (text.utf8ByteSize + 13)) := by
    simp only [partMessage, Message.of, Message.containerLength, Item.body, List.length_append,
      length_word, List.length_nil, Item.octets, Attribute.length_write, length_body_chunk]
    simp only [wordSize]
    omega
  unfold Message.Fits
  rw [hlength]
  simp only [wordSize, Message.maxLength] at *
  omega

/-! ### All of an answer -/

theorem zeroFree_of_uncontrolled {s : String} (h : Uncontrolled s.toList) : Utf8.ZeroFree s :=
  fun hzero => absurd (h _ hzero) (by decide)

/-- Every chunk of a reply can be carried, and none is empty. That it has no zero is a property of
the printed text as a whole, and holds of a chunk because it is a part of the text. -/
theorem carried_of_mem_chunks {reply : Envelope} {text : String}
    (h : text ∈ Call.splitChunks reply.encode Call.chunkLimit) : Carried text ∧ text ≠ "" := by
  -- A chunk has only characters of the printed reply, where controls are escaped.
  have hjoin := Call.join_splitChunks reply.encode Call.chunkLimit
  have hsub : text.toList ⊆ reply.encode.toList := by
    intro c hc
    rw [← hjoin, String.toList_join]
    exact List.mem_flatMap.mpr ⟨text, h, hc⟩
  have huncontrolled := (Json.uncontrolled_render (.object reply.members)).subset hsub
  refine ⟨⟨zeroFree_of_uncontrolled huncontrolled, ?_⟩, ?_⟩
  · exact Call.size_le_of_mem_splitChunks (by decide) h
  · exact Call.ne_empty_of_mem_splitChunks (by decide) (Json.render_object_ne_empty _) h

/-- All messages that carry these chunks to a caller. -/
def answerMessages (call : Invocation) (texts : List String) (code : UInt32) : List Message :=
  texts.map (partMessage call) ++ [lastMessage call code]

theorem fits_answerMessages {texts : List String} (h : ∀ text ∈ texts, Carried text)
    (call : Invocation) (code : UInt32) : ∀ m ∈ answerMessages call texts code, m.Fits := by
  intro m hm
  rcases List.mem_append.mp hm with hm | hm
  · obtain ⟨text, htext, rfl⟩ := List.mem_map.mp hm
    exact fits_partMessage (h text htext) call
  · rw [List.mem_singleton.mp hm]
    exact fits_lastMessage call code

theorem normal_answerMessages (call : Invocation) (texts : List String) (code : UInt32) :
    (answerMessages call texts code).map .normal = answerMessages call texts code := by
  unfold answerMessages
  rw [List.map_append, List.map_map]
  rfl

theorem replyMessages_texts (call : Invocation) (texts : List String) (code : UInt32) :
    Client.replyMessages call (texts.map fun text => [("data", .string text)]) code =
      answerMessages call texts code := by
  unfold Client.replyMessages
  rw [List.map_map]
  rfl

/-- A reply to a call is written as parts that hold its text, chunk by chunk, and an end with status
0. All of them can be sent, and they are what is read from any steady delivery of their bytes.

The parts are listed together with their texts, so that what each of them holds and that the texts
make up the reply can be said of the same list. -/
theorem reply_read_back (reply : Envelope) (call : Invocation) (c : Client) :
    ∃ (parts : List (String × Message)) (last : Message) (sink : Stream.Sink),
      (c.reply call (Call.replyPayloads reply) 0).sent =
        c.sent ++ (parts.map (·.2) ++ [last]) ∧
      Message.writeAll (parts.map (·.2) ++ [last]) .unbounded = (.ok (), sink) ∧
      (∀ source, Stream.Steady Waits source → Stream.bytesOf source = sink.written →
        Brings (parts.map (·.2) ++ [last]) (readings source)) ∧
      (∀ m ∈ parts.map (·.2) ++ [last], m.containerLength ≤ Message.maxLength) ∧
      (∀ p ∈ parts, IsPart call p.1 p.2 ∧ p.1 ≠ "" ∧ p.1.utf8ByteSize ≤ 512 * 1024) ∧
      IsEnd call 0 last ∧
      String.join (parts.map (·.1)) = reply.encode := by
  let texts := Call.splitChunks reply.encode Call.chunkLimit
  have hcarried : ∀ text ∈ texts, Carried text ∧ text ≠ "" := fun _ => carried_of_mem_chunks
  have hfits := fits_answerMessages (fun text htext => (hcarried text htext).1) call 0
  let parts := texts.map fun text => (text, partMessage call text)
  have hparts : parts.map (·.2) ++ [lastMessage call 0] = answerMessages call texts 0 := by
    simp only [parts, List.map_map]
    rfl
  have htexts : parts.map (·.1) = texts := by
    simp only [parts, List.map_map]
    exact List.map_id texts
  let written := (answerMessages call texts 0).flatMap Message.wire
  let sink := { Stream.Sink.unbounded with written }
  refine ⟨parts, lastMessage call 0, sink, ?_, ?_, ?_, ?_, ?_, isEnd_lastMessage call 0, ?_⟩
  · rw [hparts, ← replyMessages_texts]
    rfl
  · rw [hparts]
    exact Message.writeAll_of_fits hfits .unbounded rfl rfl
  · -- A reader sees kinds by their codes; those of an answer are all known.
    intro source hsteady hbytes
    rw [hparts, ← normal_answerMessages]
    exact readings_bring hfits hsteady hbytes
  · rw [hparts]
    exact hfits
  · intro p hp
    obtain ⟨text, htext, rfl⟩ := List.mem_map.mp hp
    obtain ⟨hok, hne⟩ := hcarried text htext
    exact ⟨isPart_partMessage hok call, hne, hok.size_le⟩
  · rw [htexts]
    exact Call.join_splitChunks _ _

end Switchyard.Bus
