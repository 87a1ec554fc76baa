import Switchyard.Bus.Notifier
import Switchyard.Notify.Socket
import Switchyard.PubSub.Session
import Switchyard.Proofs.Bus.Event
import Switchyard.Proofs.Envelope
import Switchyard.Proofs.Frame
import Switchyard.Proofs.Json.Equality
import Switchyard.Proofs.PubSub.Request

/-!
# Switchyard.Proofs.Broadcasts

**Notifications say the same on every bus** (`notifications_agree`). A subscriber to the socket
reads a frame with the text of the envelope, one on the pub/sub bus a publication with the same
text, and one on the object bus an event: the module is in its name, the action and the payload are
in its table. All three hear the module, the action and the payload of the envelope.

Two encodings meet here, and each of them leaves something out (`Faithful`). The text has no bound
on strings and numbers, but a reader of it allows 127 levels only. The table has no bound on levels
but that of its size, but ends a text at its first zero and has no room for an integer beyond 64
signed bits. And a publication has a topic, which the names of the notification are part of: the
broker's client sends nothing on a topic with a wildcard (`not_heardAlike_of_wild`).
`notifications_differ` has a notification for each of these.
-/

namespace Switchyard

open Bus

/-! ### Subscribers -/

/-- What a subscriber learns from a notification. -/
structure Heard where
  module : String
  action : String
  data : Option Json
  deriving DecidableEq

namespace Heard

/-- What the text of an envelope tells, by three of its members. -/
def ofText (payload : Octets) : Option Heard := do
  let e ← Json.parse? payload
  let module ← (e.get? "module").bind Json.string?
  let action ← (e.get? "action").bind Json.string?
  return ⟨module, action, e.get? "data"⟩

/-- What the first frame of a source tells. -/
def ofFrame (source : Stream.Source) : Option Heard :=
  match Frame.read Frame.maxPayload source with
  | .ok (some payload, _) => ofText payload
  | _ => none

/-- The module that an event is named for. -/
def moduleOf? (id : String) : Option String :=
  if namePrefix.toList <+: id.toList then
    some (String.ofList (id.toList.drop namePrefix.toList.length))
  else none

/-- What the table of an event tells: its id, and the object in it. -/
def ofTable (table : Json.Members) : Option Heard := do
  let module ← ((Json.lookup? "id" table).bind Json.string?).bind moduleOf?
  let payload ← Json.lookup? "data" table
  let action ← (payload.get? "action").bind Json.string?
  return ⟨module, action, payload.get? "data"⟩

/-- What the message of an event tells. -/
def ofMessage (m : Message) : Option Heard :=
  m.table.toOption.bind ofTable

end Heard

/-- Whatever was sent before, a notification of the controller is sent on each bus, and the
subscribers of all three hear the same. What was sent before decides how: over a connection that is
open or a new one, and behind what waits in the queue. -/
structure HeardAlike (t : PubSub.Topics) (e : Envelope) (h : Heard) : Prop where
  /-- On the socket a frame is added to the connection, or to a new one if there is none. -/
  socket : ∀ n : Notify.SocketNotifier, ∃ frame,
    n.notify .willing e = (.ok (), { n with current := some (n.current.getD [] ++ frame) }) ∧
    ∀ source, Stream.Delivers frame source → Heard.ofFrame source = some h
  /-- On the pub/sub bus a publication waits to be sent, if there is room for it. -/
  publication : ∀ o : PubSub.Outbox, o.length < PubSub.capacity → ∃ payload,
    PubSub.notify t e o =
      (.ok (), o ++ [.publish (t.notification e.module e.action) payload .atMostOnce]) ∧
    Heard.ofText payload = some h
  /-- On the object bus a message is sent, whatever the bus answers to it. -/
  event : ∀ (n : Notifier) (dial : Except IoError (List Reading)) (c : Client),
    n.connected dial = .ok c → ∃ m left,
      (n.notify e dial).2.1 = some left ∧ left.sent = c.sent ++ [m] ∧ m.octets = .ok m.wire ∧
      (∀ source, Stream.Steady Waits source → Stream.bytesOf source = m.wire →
        Brings [m] (readings source)) ∧
      Heard.ofMessage m = some h

variable {t : PubSub.Topics} {e : Envelope} {h : Heard} {seq : UInt16}

/-! ### Frames -/

/-- The text of an envelope tells all of it, read as a value of which only three members are known.
-/
theorem ofText_octets (hlegible : ∀ d ∈ e.data, d.Legible) :
    Heard.ofText e.octets = some ⟨e.module, e.action, e.data⟩ := by
  obtain ⟨hmodule, haction, hdata⟩ := e.get?_members
  unfold Heard.ofText
  rw [Json.parse?_eq_some_iff.mpr (Envelope.parse_octets hlegible)]
  simp only [Option.bind_eq_bind, Option.bind_some, hmodule, haction, hdata]
  rfl

/-- A notification adds its frame to the connection. -/
theorem notify_willing (hsize : e.octets.length < 0x100000000) (n : Notify.SocketNotifier) :
    n.notify .willing e =
      (.ok (), { n with current := some (n.current.getD [] ++ Frame.encode e.octets) }) := by
  have hwrite (written : Octets) : n.writeTo .willing e written =
      (.ok (), { n with current := some (written ++ Frame.encode e.octets) }) := by
    unfold Notify.SocketNotifier.writeTo
    rw [Frame.write_eq_ok hsize rfl rfl]
  unfold Notify.SocketNotifier.notify
  cases n.current with
  | some written => exact hwrite written
  | none => exact hwrite []

/-! ### Events -/

/-- The name of an event names the module. -/
theorem moduleOf?_objectName (module : String) :
    Heard.moduleOf? (objectName module) = some module := by
  unfold Heard.moduleOf?
  rw [toList_objectName, if_pos (List.prefix_append _ _), List.drop_left, String.ofList_toList]

/-- The message of an event tells all of the notification: the module by the id of the event, the
rest by its object. -/
theorem ofMessage_eventMessage (hportable : EventPortable e) (hfits : (eventMessage seq e).Fits) :
    Heard.ofMessage (eventMessage seq e) = some ⟨e.module, e.action, e.data⟩ := by
  have htable : Heard.ofTable (Json.sortMembers (eventFields e)) =
      (Heard.moduleOf? (objectName e.module)).bind fun m => some ⟨m, e.action, e.data⟩ := by
    obtain ⟨module, action, kind, data, errors⟩ := e
    cases data with
    | none => rfl
    | some d => rfl
  unfold Heard.ofMessage
  rw [table_eventMessage hportable hfits]
  show Heard.ofTable _ = _
  rw [htable, moduleOf?_objectName]
  rfl

/-! ### All buses -/

/-- Nothing in the notification is refused, cut or rounded on one of the buses. -/
structure Faithful (t : PubSub.Topics) (e : Envelope) : Prop where
  controller_plain : PubSub.IsPlain t.controller
  module_plain : PubSub.IsPlain e.module
  action_plain : PubSub.IsPlain e.action
  module_zeroFree : Utf8.ZeroFree e.module
  action_zeroFree : Utf8.ZeroFree e.action
  legible : ∀ d ∈ e.data, d.Legible
  portable : ∀ d ∈ e.data, d.Portable

theorem Faithful.eventPortable (hfaithful : Faithful t e) : EventPortable e where
  module_zeroFree := hfaithful.module_zeroFree
  action_zeroFree := hfaithful.action_zeroFree
  ordered d hd := (hfaithful.legible d hd).ordered
  portable := hfaithful.portable

theorem Faithful.isTopic (hfaithful : Faithful t e) :
    PubSub.isTopic (t.notification e.module e.action) = true :=
  (PubSub.isTopic_notification_iff t e.module e.action).mpr
    ⟨hfaithful.controller_plain, hfaithful.module_plain, hfaithful.action_plain⟩

/-- The readers of frames and of messages have room for the notification. The number of a message
has no influence on its length, but is part of it. -/
structure Sized (e : Envelope) : Prop where
  frame : Frame.Fits Frame.maxPayload e.octets
  event : ∀ seq, (eventMessage seq e).Fits

/-- **Notifications say the same on every bus.** A frame of the socket, a publication and an event
tell the module, the action and the payload of the envelope, whatever was sent before it and however
the bytes are delivered: if the texts of module, action and payload have no zeros, the payload nests
126 levels at most, its numbers are integers of 64 signed bits, neither the controller nor the
module nor the action holds a wildcard, and the notification fits. -/
theorem notifications_agree (t : PubSub.Topics) (e : Envelope) (hfaithful : Faithful t e)
    (hsized : Sized e) : HeardAlike t e ⟨e.module, e.action, e.data⟩ where
  socket n := by
    refine ⟨_, notify_willing hsized.frame.2 n, fun source hsource => ?_⟩
    rw [← List.append_nil (Frame.encode _)] at hsource
    obtain ⟨rest, hread, -⟩ := Frame.read_of_frame hsized.frame hsource
    unfold Heard.ofFrame
    rw [hread]
    exact ofText_octets hfaithful.legible
  publication o ho :=
    ⟨e.octets, PubSub.notify_of_room hfaithful.isTopic ho, ofText_octets hfaithful.legible⟩
  event n dial c hc := by
    obtain ⟨left, hleft, hsent⟩ := notify_sent (e := e) hc
    have hfits := hsized.event (c.seq + 1)
    refine ⟨_, left, hleft, hsent, Message.octets_of_fits hfits, fun source hsource hbytes => ?_,
      ofMessage_eventMessage hfaithful.eventPortable hfits⟩
    have hone : ∀ m ∈ [eventMessage (c.seq + 1) e], m.Fits := List.forall_mem_singleton.mpr hfits
    exact readings_bring hone hsource (by simpa using hbytes)

/-- A notification of at most a thousand bytes of text and ten thousand of fields has room. -/
theorem sized_of_le (htext : (Json.object e.members).spelling.length ≤ 1000)
    (hevent : (eventMessage 0 e).body.length ≤ 10000) : Sized e := by
  have hlength : e.octets.length ≤ 1000 := by
    rwa [e.octets_eq_spelling]
  refine ⟨⟨?_, ?_⟩, fun seq => ?_⟩
  · unfold Frame.maxPayload
    omega
  · omega
  · show wordSize + (eventMessage 0 e).body.length ≤ Message.maxLength
    unfold wordSize Message.maxLength
    omega

/-- A notification with every kind of payload that keeps its value. -/
def nestedNotification : Envelope :=
  .notification "dns" "changed" (some (.object
    [("list", .array [.null, .bool true, .array [], .object []]),
      ("low", .number (.integer ⟨-0x7fffffffffffffff, by decide, by decide⟩)),
      ("text", .string "\x01\"\\é\n")]))

theorem notifications_agree_nested :
    Faithful ⟨"ctl"⟩ nestedNotification ∧ Sized nestedNotification ∧
      HeardAlike ⟨"ctl"⟩ nestedNotification
        ⟨nestedNotification.module, nestedNotification.action, nestedNotification.data⟩ := by
  have hfaithful : Faithful ⟨"ctl"⟩ nestedNotification := by
    refine ⟨by decide, by decide, by decide, ?_, ?_, ?_, ?_⟩
    · unfold Utf8.ZeroFree
      decide
    · unfold Utf8.ZeroFree
      decide
    · rintro d ⟨⟩
      refine ⟨by decide, ?_, by decide⟩
      simp [Json.Integral, Json.IntegralMembers, Json.IntegralItems]
    · rintro d ⟨⟩
      simp only [Json.Portable, Json.PortableMembers, Json.PortableItems, Utf8.ZeroFree,
        shortName_iff, and_true, true_and]
      decide
  have hsized : Sized nestedNotification :=
    sized_of_le (by decide +kernel) (by decide +kernel)
  exact ⟨hfaithful, hsized, notifications_agree ⟨"ctl"⟩ nestedNotification hfaithful hsized⟩

/-! ### Losses -/

namespace HeardAlike

/-- What is heard alike is published, so its topic can be published on. -/
theorem isTopic (hall : HeardAlike t e h) :
    PubSub.isTopic (t.notification e.module e.action) = true := by
  by_contra hsound
  obtain ⟨payload, hnotify, -⟩ := hall.publication [] (by decide)
  rw [PubSub.notify_of_unsound hsound] at hnotify
  cases hnotify

theorem text (hall : HeardAlike t e h) : Heard.ofText e.octets = some h := by
  obtain ⟨payload, hnotify, htext⟩ := hall.publication [] (by decide)
  rw [PubSub.notify_of_room hall.isTopic (by decide)] at hnotify
  cases hnotify
  exact htext

theorem message (hall : HeardAlike t e h) (seq : UInt16) :
    Heard.ofMessage (eventMessage seq e) = some h := by
  -- A client whose next request has this number.
  let n : Notifier := ⟨"", some ⟨0, seq - 1, [], [], []⟩⟩
  have hconnected : n.connected (.error .notFound) = .ok ⟨0, seq - 1, [], [], []⟩ := rfl
  obtain ⟨m, left, hleft, hsent, -, -, hm⟩ := hall.event n _ _ hconnected
  obtain ⟨left', hleft', hsent'⟩ := notify_sent (e := e) hconnected
  rw [hleft] at hleft'
  cases hleft'
  rw [hsent, List.append_cancel_left_eq] at hsent'
  cases hsent'
  rwa [UInt16.sub_add_cancel] at hm

end HeardAlike

/-- A notification of which a name holds a wildcard is not published, whatever else it tells. -/
theorem not_heardAlike_of_wild
    (hwild : ¬(PubSub.IsPlain t.controller ∧ PubSub.IsPlain e.module ∧ PubSub.IsPlain e.action)) :
    ¬HeardAlike t e h :=
  fun hall => hwild ((PubSub.isTopic_notification_iff t e.module e.action).mp hall.isTopic)

/-- A notification fits and has no doubles, but is not heard alike. -/
def Differs (t : PubSub.Topics) (e : Envelope) : Prop :=
  (∀ d ∈ e.data, d.Ordered ∧ d.Integral) ∧ Sized e ∧ ¬HeardAlike t e ⟨e.module, e.action, e.data⟩

/-- A notification with some payload. -/
def changed (d : Json) : Envelope :=
  .notification "dns" "changed" (some d)

theorem differs_changed {d : Json} (hordered : d.Ordered) (hintegral : d.Integral)
    (hsized : Sized (changed d)) (halike : ¬HeardAlike t (changed d) ⟨"dns", "changed", some d⟩) :
    Differs t (changed d) := by
  refine ⟨?_, hsized, halike⟩
  rintro _ ⟨⟩
  exact ⟨hordered, hintegral⟩

/-- An event ends a text at its zero. -/
theorem differs_zero : Differs t (changed (.string "x\x00y")) := by
  have hcut : Heard.ofMessage (eventMessage 0 (changed (.string "x\x00y"))) =
      some ⟨"dns", "changed", some (.string "x")⟩ := by
    decide +kernel
  refine differs_changed trivial trivial (sized_of_le (by decide +kernel) (by decide +kernel))
    fun hall => ?_
  have hsame := hcut.symm.trans (hall.message 0)
  revert hsame
  decide

/-- An event has a double for an integer beyond 64 signed bits. -/
theorem differs_large :
    Differs t (changed (.number (.integer ⟨0xffffffffffffffff, by decide, by decide⟩))) := by
  have hrounded : Heard.ofMessage (eventMessage 0
      (changed (.number (.integer ⟨0xffffffffffffffff, by decide, by decide⟩)))) =
      some ⟨"dns", "changed", some (.number (.double ⟨0x43f0000000000000, by decide⟩))⟩ := by
    decide +kernel
  refine differs_changed trivial trivial (sized_of_le (by decide +kernel) (by decide +kernel))
    fun hall => ?_
  have hsame := hrounded.symm.trans (hall.message 0)
  revert hsame
  decide

/-- A list inside `n` others. -/
def listInside : Nat → Json
  | 0 => .array []
  | n + 1 => .array [listInside n]

theorem ordered_listInside (n : Nat) : (listInside n).Ordered := by
  induction n with
  | zero => trivial
  | succ n ih => exact ⟨ih, trivial⟩

theorem integral_listInside (n : Nat) : (listInside n).Integral := by
  induction n with
  | zero => trivial
  | succ n ih => exact ⟨ih, trivial⟩

/-- Each list takes a word and the header of its name, which is empty for the lists inside. -/
theorem length_listInside (n : Nat) (name : String) (hname : (nameHeader name).length % 4 = 0) :
    (fieldOf name (listInside n)).length = 4 + (nameHeader name).length + 8 * n := by
  have hlist (name : String) (value : Octets) : (field arrayType name value).length =
      padded (4 + ((nameHeader name).length + value.length)) := by
    rw [field, Attribute.length_write, List.length_append, wordSize]
  induction n generalizing name with
  | zero =>
      show (field arrayType name []).length = _
      rw [hlist, List.length_nil]
      unfold padded
      omega
  | succ n ih =>
      have hempty : (nameHeader "").length = 4 := by decide
      have hinner := ih "" (by rw [hempty])
      show (field arrayType name (fieldOf "" (listInside n) ++ [])).length = _
      rw [hlist, List.append_nil, hinner, hempty]
      unfold padded
      omega

/-- Around the field of the payload an event has its id, its action and a few headers. -/
theorem length_eventMessage_le (d : Json) :
    (eventMessage 0 (changed d)).body.length ≤
      200 + (fieldOf "data" d).length := by
  have hid : (fieldOf "id" (.string (objectName "dns"))).length = 24 := by decide
  have haction : (fieldOf "action" (.string "changed")).length = 24 := by decide
  have hname : (nameHeader "data").length = 8 := by decide
  have hsend : (Item.octets (.text methodId "send")).length = 12 := by decide
  have hobject : (fieldOf "data" (.object [("action", .string "changed"), ("data", d)])).length =
      padded (36 + (fieldOf "data" d).length) := by
    show (field tableType "data" (fieldOf "action" (.string "changed") ++
      (fieldOf "data" d ++ []))).length = _
    rw [field, Attribute.length_write]
    simp only [List.length_append, hname, haction, List.length_nil, wordSize]
    congr 1
    omega
  have hfields : (fieldsOf (eventFields (changed d))).length =
      24 + padded (36 + (fieldOf "data" d).length) := by
    show (fieldOf "id" (.string (objectName "dns")) ++ (fieldOf "data"
      (.object [("action", .string "changed"), ("data", d)]) ++ [])).length = _
    simp only [List.length_append, hid, hobject, List.length_nil]
    omega
  rw [eventMessage_eq]
  simp only [Message.of, Item.body, List.length_append, length_word, hsend, Item.octets,
    Attribute.length_write, Item.body_fields, hfields, List.length_nil]
  unfold padded wordSize
  omega

/-- A reader of texts refuses the 128th level. -/
theorem differs_deep : Differs t (changed (listInside 126)) := by
  have hrefused : Heard.ofText (changed (listInside 126)).octets = none := by
    rw [Envelope.octets_eq_spelling]
    decide +kernel
  have hevent : (eventMessage 0 (changed (listInside 126))).body.length ≤ 10000 := by
    have hle := length_eventMessage_le (listInside 126)
    have hname : (nameHeader "data").length = 8 := by decide
    have hdata := length_listInside 126 "data" (by rw [hname])
    omega
  refine differs_changed (ordered_listInside 126) (integral_listInside 126)
    (sized_of_le (by decide +kernel) hevent) fun hall => ?_
  rw [hall.text] at hrefused
  cases hrefused

/-- The broker's client sends nothing on a topic with a wildcard, whether it comes from the
controller or from the event. -/
theorem differs_wild :
    Differs ⟨"a+b"⟩ (changed .null) ∧ Differs ⟨"ctl"⟩ (.notification "dns" "on#off" none) := by
  constructor
  · exact differs_changed trivial trivial (sized_of_le (by decide +kernel) (by decide +kernel))
      (not_heardAlike_of_wild (by decide))
  · exact ⟨nofun, sized_of_le (by decide +kernel) (by decide +kernel),
      not_heardAlike_of_wild (by decide)⟩

/-- **Some notifications are not heard alike**, though they have no doubles and fit all limits of
size: those with a zero in a text, with an integer beyond 64 signed bits, with more levels than a
reader of texts allows, and those whose topic has a wildcard, of the controller or of their own. -/
theorem notifications_differ :
    Differs ⟨"ctl"⟩ (changed (.string "x\x00y")) ∧
      Differs ⟨"ctl"⟩ (changed (.number (.integer ⟨0xffffffffffffffff, by decide, by decide⟩))) ∧
      Differs ⟨"ctl"⟩ (changed (listInside 126)) ∧
      Differs ⟨"a+b"⟩ (changed .null) ∧
      Differs ⟨"ctl"⟩ (.notification "dns" "on#off" none) :=
  ⟨differs_zero, differs_large, differs_deep, differs_wild.1, differs_wild.2⟩

end Switchyard
