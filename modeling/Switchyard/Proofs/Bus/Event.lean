import Switchyard.Proofs.Bus.Client
import Switchyard.Proofs.Bus.Table

/-!
# Switchyard.Proofs.Bus.Event

**The event of a notification carries its name, its action and its payload** (`table_eventMessage`).
The name of the event and an object with the action and the payload are the two fields of its table
(`eventFields`), and tables are read back as long as nothing in them is cut or rounded
(`EventPortable`). The message goes out over the connection that the notifier has or opens, whatever
the bus answers (`notify_sent`).

Unlike a reply, an event carries its payload as a table and not as printed text, and what the table
cannot hold is cut or rounded when it is written. `EventPortable` says that there is nothing of the
kind; it is a property of the notification and not of the bytes. That the message fits is a separate
hypothesis, since it depends on all parts together.
-/

namespace Switchyard.Bus

variable {e : Envelope} {seq : UInt16}

/-! ### The message -/

/-- The message that broadcasts a notification. -/
def eventMessage (seq : UInt16) (e : Envelope) : Message :=
  .of .invoke seq Client.eventObject (Client.eventItems (objectName e.module) (eventData e))

/-- The members of the object in an event. A notification without a payload has only its action. -/
def eventMembers (e : Envelope) : Json.Members :=
  ("action", .string e.action) :: (e.data.map fun d => ("data", d)).toList

/-- The fields of an event, as they are sent. -/
def eventFields (e : Envelope) : Json.Members :=
  [("id", .string (objectName e.module)), ("data", .object (eventMembers e))]

/-- The members stand in order, so that sorting them changes nothing. -/
theorem eventData_eq (e : Envelope) : eventData e = .object (eventMembers e) := by
  obtain ⟨module, action, kind, data, errors⟩ := e
  cases data with
  | none => rfl
  | some d => rfl

theorem eventMessage_eq (seq : UInt16) (e : Envelope) :
    eventMessage seq e =
      .of .invoke seq Client.eventObject [.word objectId Client.eventObject, .text methodId "send",
        .nested dataId (Item.fields (eventFields e))] := by
  unfold eventMessage Client.eventItems
  rw [eventData_eq]
  rfl

/-- A notification sends its event over the connection there is, or over a new one. What the bus
answers decides only whether the notifier reports a failure. -/
theorem notify_sent {n : Notifier} {dial : Except IoError (List Reading)} {c : Client}
    (hconnected : n.connected dial = .ok c) :
    ∃ left, (n.notify e dial).2.1 = some left ∧
      left.sent = c.sent ++ [eventMessage (c.seq + 1) e] := by
  have hsent : (c.sendEvent (objectName e.module) (eventData e)).2.sent =
      c.sent ++ [eventMessage (c.seq + 1) e] := by
    rw [Client.sendEvent_client]
    rfl
  unfold Notifier.notify
  rw [hconnected]
  dsimp only
  -- The client is given back when the bus refuses the event, too.
  cases hevent : c.sendEvent (objectName e.module) (eventData e) with
  | mk result left =>
      rw [hevent] at hsent
      cases result with
      | error e => exact ⟨left, rfl, hsent⟩
      | ok _ => exact ⟨left, rfl, hsent⟩

/-- The fields of an event are a part of its message, so that they fit if the message does. -/
theorem length_fieldsOf_lt (hfits : (eventMessage seq e).Fits) :
    wordSize + (fieldsOf (eventFields e)).length < 0x1000000 := by
  rw [eventMessage_eq, Message.Fits, Message.containerLength, Message.of] at hfits
  have hle := le_padded (wordSize + (fieldsOf (eventFields e)).length)
  simp only [Item.body, List.length_append, Item.octets, Attribute.length_write,
    Item.body_fields, wordSize, Message.maxLength] at *
  omega

/-! ### What it carries -/

theorem toList_objectName (module : String) :
    (objectName module).toList = namePrefix.toList ++ module.toList :=
  String.toList_append

/-- An event cuts no text of the notification and rounds no number. The names of the fields need no
condition: they are the same for every event. -/
structure EventPortable (e : Envelope) : Prop where
  module_zeroFree : Utf8.ZeroFree e.module
  action_zeroFree : Utf8.ZeroFree e.action
  ordered : ∀ d ∈ e.data, d.Ordered
  portable : ∀ d ∈ e.data, d.Portable

namespace EventPortable

theorem ordered_eventFields (h : EventPortable e) : Json.OrderedMembers (eventFields e) := by
  obtain ⟨module, action, kind, data, errors⟩ := e
  cases data with
  | none => exact ⟨trivial, ⟨List.pairwise_singleton _ _, trivial, trivial⟩, trivial⟩
  | some d =>
      have hsorted : Json.SortedKeys [("action", .string action), ("data", d)] :=
        List.pairwise_pair.mpr (show "action" < "data" by decide)
      exact ⟨trivial, ⟨hsorted, trivial, h.ordered d rfl, trivial⟩, trivial⟩

theorem portable_eventFields (h : EventPortable e) : Json.PortableMembers (eventFields e) := by
  have hname (name : String) (hsize : name.utf8ByteSize ≤ maxName) : ShortName name :=
    (shortName_iff name).mpr hsize
  have hid : Utf8.ZeroFree (objectName e.module) := by
    unfold Utf8.ZeroFree
    rw [toList_objectName, List.mem_append, not_or]
    exact ⟨by decide, h.module_zeroFree⟩
  have hmembers : Json.PortableMembers (eventMembers e) := by
    obtain ⟨module, action, kind, data, errors⟩ := e
    cases data with
    | none => exact ⟨hname _ (by decide), h.action_zeroFree, trivial⟩
    | some d =>
        exact ⟨hname _ (by decide), h.action_zeroFree, hname _ (by decide), h.portable d rfl,
          trivial⟩
  exact ⟨hname _ (by decide), hid, hname _ (by decide), hmembers, trivial⟩

end EventPortable

/-- **The event of a notification carries its fields.** They are given in the order of their names,
because the reader of a table sorts them. -/
theorem table_eventMessage (h : EventPortable e) (hfits : (eventMessage seq e).Fits) :
    (eventMessage seq e).table = .ok (Json.sortMembers (eventFields e)) := by
  have hsize := length_fieldsOf_lt hfits
  have hattributes : (eventMessage seq e).attributes =
      .ok [(Item.word objectId Client.eventObject).toAttribute,
        (Item.text methodId "send").toAttribute,
        (Item.nested dataId (Item.fields (eventFields e))).toAttribute] := by
    rw [eventMessage_eq]
    apply Message.attributes_of
    simp only [List.forall_mem_cons]
    refine ⟨fits_word _ (by decide) _, ⟨by decide, by decide⟩,
      ⟨show dataId.toNat < 128 by decide, ?_⟩, by simp⟩
    rw [Item.toAttribute, Item.body_fields]
    exact hsize
  have hback : ∀ m ∈ eventFields e, ReadsBack m.1 m.2 :=
    readsBack_members _ h.ordered_eventFields h.portable_eventFields
      (Nat.lt_of_le_of_lt (Nat.le_add_left _ _) hsize)
  rw [table_of hattributes, tableOf_cons_ne (by decide : objectId ≠ dataId),
    tableOf_cons_ne (by decide : methodId ≠ dataId), tableOf_nested_self, Item.body_fields,
    readTable, readMembers_fieldsOf hback (Nat.le_refl _)]
  rfl

end Switchyard.Bus
