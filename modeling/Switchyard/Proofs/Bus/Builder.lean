import Mathlib.Data.List.Infix
import Switchyard.Bus.Builder
import Switchyard.Proofs.Bus.Item

/-!
# Switchyard.Proofs.Bus.Builder

**What is built in place is read back** (`Item.built_in_place`), although a step goes back to a word
that it wrote before further steps were taken inside of it.

* `Buffer.finish_append` — finishing an attribute touches its own word only. It is the only lemma
  that opens `finish`.
* `Step.run_eq_append`, `Step.runAll_eq_append` — so a step adds bytes to the buffer that do not
  depend on what was there before, and leaves that alone.
* `Mark`, `Traced` — the buffer before and after every step, those inside of another step included.
  What a step has written stays as it is: the steps after it only add to it (`Traced.append`), and
  the steps around it change the word that they begin with, which is in front of it
  (`Traced.finish`).
* `Item.runAll_steps` — attributes that fit their words are those of the items, in the form in which
  messages are written.

An attribute is begun before its length is known: the word says zero, what fills the attribute
follows, and then the length is put into the word where it stands. While that goes on the buffer
holds words that are wrong, those of all attributes that have been begun and not finished. So no
invariant of the buffer as a whole is stated. A step is described by what it adds (`Step.octets`),
which by `run_eq_append` does not depend on the buffer, and what holds on the way is stated of the
marks.

The proofs follow the tree of the steps: `run` and `runAll`, `marks` and `marksAll`, `ofValue` with
`ofItems` and `ofMembers`, and `Item.step` with `steps` are mutual recursions, and each result about
them is a mutual theorem with the same cases.
-/

namespace Switchyard.Bus

/-! ### The buffer -/

namespace Buffer

theorem told_of_lt {n : Nat} (h : n < 0x1000000) : told n = n := by
  unfold told
  rw [if_pos (by omega), Nat.mod_eq_of_lt h]

@[simp] theorem length_withLength (n : Nat) (word : Octets) :
    (withLength n word).length = wordSize :=
  Octets.length_bigEndian _ _

/-- A word that told no length tells the one that is put in, as if it had been known from the start.
-/
theorem withLength_attributeWord (id : UInt8) (flag : Bool) {n : Nat} (h : n < 0x1000000) :
    withLength n (attributeWord id flag 0) = attributeWord id flag n := by
  have hid : id.toNat % 128 < 128 := Nat.mod_lt _ (by decide)
  unfold withLength attributeWord
  simp only [Octets.ofBigEndian_bigEndian, told_of_lt h, Nat.mod_eq_of_lt h, wordSize]
  congr 1
  split <;> omega

/-- To fill up a buffer for `n` more bytes is to fill up those. With less room than bytes it would
cut them, which no attribute makes it do. -/
theorem resize_append {n : Nat} {more : Octets} (h : more.length ≤ n) (buffer : Octets) :
    resize (buffer.length + n) (buffer ++ more) =
      buffer ++ (more ++ List.replicate (n - more.length) 0) := by
  have hsize : (buffer ++ more).length = buffer.length + more.length := List.length_append
  unfold resize
  rw [List.take_of_length_le (by omega), hsize, Nat.add_sub_add_left, List.append_assoc]

/-- Finishing changes the word that the attribute begins with, and adds the padding. What was in the
buffer in front of that word and what stands behind it are arbitrary: contents that are themselves
attributes, finished or not, stay as they are. -/
theorem finish_append {word : Octets} (hword : word.length = wordSize) (buffer contents : Octets) :
    finish buffer.length (buffer ++ (word ++ contents)) =
      buffer ++ (withLength (wordSize + contents.length) word ++
        (contents ++ padding (wordSize + contents.length))) := by
  have hlength : (buffer ++ (word ++ contents)).length - buffer.length =
      wordSize + contents.length := by
    simp [hword]
  have hset : setLength buffer.length (wordSize + contents.length) (buffer ++ (word ++ contents)) =
      buffer ++ (withLength (wordSize + contents.length) word ++ contents) := by
    unfold setLength
    simp [← hword]
  have hle := le_padded (wordSize + contents.length)
  unfold finish
  simp only [hlength, hset]
  rw [resize_append (by simpa using hle)]
  simp [padding]

end Buffer

theorem dvd_padded (n : Nat) : wordSize ∣ padded n :=
  ⟨(n + 3) / 4, Nat.mul_comm _ _⟩

/-! ### One attribute -/

namespace Head

/-- The word that an attribute begins with, before its length is known. -/
def word : Head → Octets
  | plain id => attributeWord id false 0
  | named type _ => attributeWord type true 0

/-- What stands between the word and what fills the attribute. It is written together with the word
and not touched when the attribute is finished. -/
def header : Head → Octets
  | plain _ => []
  | named _ name => nameHeader name

/-- The attribute that is filled with these contents, as the reader will see it. -/
def toAttribute : Head → Octets → Attribute
  | plain id, contents => ⟨id, false, contents⟩
  | named type name, contents => fieldAttribute type name contents

/-- The bytes of the attribute when it is finished. They do not depend on the buffer in which it is
built. If the length does not fit, they are no attribute with this payload; see `write_eq_octets`.
-/
def write (head : Head) (contents : Octets) : Octets :=
  let payload := head.header ++ contents
  Buffer.withLength (wordSize + payload.length) head.word ++
    (payload ++ padding (wordSize + payload.length))

@[simp] theorem length_word (head : Head) : head.word.length = wordSize := by
  cases head with
  | plain id => exact length_attributeWord _ _ _
  | named type name => exact length_attributeWord _ _ _

@[simp] theorem payload_toAttribute (head : Head) (contents : Octets) :
    (head.toAttribute contents).payload = head.header ++ contents := by
  cases head with
  | plain id => rfl
  | named type name => rfl

/-- Beginning an attribute adds its word and its header to the buffer. For a named one the padding
of the header is made by resizing the buffer, and here it is seen that no byte of the name is lost
by that. -/
theorem start_eq_append (head : Head) (buffer : Octets) :
    head.start buffer = buffer ++ (head.word ++ head.header) := by
  cases head with
  | plain id => simp [start, startWord, word, header]
  | named type name =>
      -- The header is written without its padding first, and the buffer is resized to where the
      -- padding ends.
      let bytes := (Utf8.encode name).take maxName
      let shown := Octets.bigEndian 2 bytes.length ++ (bytes ++ [0])
      have hshown : shown.length = 2 + bytes.length + 1 := by
        simp [shown]
        omega
      have hle := le_padded (2 + bytes.length + 1)
      have hroom : (attributeWord type true 0 ++ shown).length ≤
          wordSize + padded (2 + bytes.length + 1) := by
        simp [hshown, hle]
      have hheader : nameHeader name = shown ++ padding shown.length := rfl
      show Buffer.resize (buffer.length + wordSize + padded (2 + bytes.length + 1))
        (startWord type true buffer ++ shown) = _
      unfold startWord
      rw [Nat.add_assoc, List.append_assoc, Buffer.resize_append hroom, word, header, hheader]
      simp [padding, hshown, Nat.add_sub_add_left]

/-- A finished attribute stands behind what was in the buffer before it was begun. With this and
`start_eq_append` a step never has to be unfolded further. -/
theorem finish_start (head : Head) (buffer contents : Octets) :
    Buffer.finish buffer.length (head.start buffer ++ contents) = buffer ++ head.write contents := by
  rw [start_eq_append, List.append_assoc, List.append_assoc,
    Buffer.finish_append head.length_word]
  rfl

theorem length_write (head : Head) (contents : Octets) :
    (head.write contents).length = padded (wordSize + (head.toAttribute contents).payload.length) := by
  have hle := le_padded (wordSize + (head.header ++ contents).length)
  rw [payload_toAttribute]
  simp only [write, List.length_append, Buffer.length_withLength, length_padding] at *
  omega

/-- What comes before the contents takes whole words, so that the attributes inside of an attribute
are aligned as those around it are. -/
theorem dvd_length_header (head : Head) : wordSize ∣ head.header.length := by
  cases head with
  | plain id => exact Nat.dvd_zero _
  | named type name =>
      have hle := le_padded (Octets.bigEndian 2 ((Utf8.encode name).take maxName).length ++
        ((Utf8.encode name).take maxName ++ [0])).length
      show wordSize ∣ (nameHeader name).length
      rw [nameHeader, List.length_append, length_padding, Nat.add_sub_cancel' hle]
      exact dvd_padded _

theorem dvd_length_start (head : Head) {buffer : Octets} (h : wordSize ∣ buffer.length) :
    wordSize ∣ (head.start buffer).length := by
  rw [start_eq_append, List.length_append, List.length_append, length_word]
  exact Nat.dvd_add h (Nat.dvd_add (Nat.dvd_refl _) head.dvd_length_header)

theorem dvd_length_append_write (head : Head) (contents : Octets) {buffer : Octets}
    (h : wordSize ∣ buffer.length) : wordSize ∣ (buffer ++ head.write contents).length := by
  rw [List.length_append, length_write]
  exact Nat.dvd_add h (dvd_padded _)

/-- An attribute whose length fits the word has the form in which all attributes are written. The
bound is needed, since the word is given only the part of a length that it has room for. -/
theorem write_eq_octets {head : Head} {contents : Octets}
    (h : wordSize + (head.toAttribute contents).payload.length < 0x1000000) :
    head.write contents = (head.toAttribute contents).octets := by
  rw [payload_toAttribute] at h
  cases head with
  | plain id =>
      show Buffer.withLength _ (attributeWord id false 0) ++ _ = _
      rw [Buffer.withLength_attributeWord id false h]
      rfl
  | named type name =>
      show Buffer.withLength _ (attributeWord type true 0) ++ _ = _
      rw [Buffer.withLength_attributeWord type true h]
      rfl

end Head

/-! ### Steps -/

namespace Step

/-- What the attribute of a step begins with. -/
def head : Step → Head
  | bytes head _ => head
  | group head _ => head

/-- What fills the attribute of a step. For a group it is what its steps build in a buffer of their
own. That the group builds the same in the buffer that it shares with the steps around it is
`run_eq_append`. -/
def fill : Step → Octets
  | bytes _ value => value
  | group _ steps => runAll steps []

/-- The attribute that a step adds. -/
def toAttribute (s : Step) : Attribute :=
  s.head.toAttribute s.fill

/-- The bytes that a step adds to the buffer, whatever the buffer is. -/
def octets (s : Step) : Octets :=
  s.head.write s.fill

mutual

/-- A step adds its bytes and leaves what was there alone. A group does so although it goes back to
its word, because that word is behind what was there. -/
theorem run_eq_append : (s : Step) → (buffer : Octets) → s.run buffer = buffer ++ s.octets
  | bytes head value, buffer => by
      rw [run, head.finish_start]
      rfl
  | group head steps, buffer => by
      rw [run, runAll_eq_append steps, head.finish_start]
      rfl

/-- So do steps one after another. -/
theorem runAll_eq_append : (steps : List Step) → (buffer : Octets) →
    runAll steps buffer = buffer ++ runAll steps []
  | [], buffer => by
      rw [runAll, runAll, List.append_nil]
  | s :: rest, buffer => by
      rw [runAll, runAll, runAll_eq_append rest (s.run buffer), runAll_eq_append rest (s.run []),
        run_eq_append s, run_eq_append s [], List.append_assoc, List.nil_append]

end

theorem runAll_cons_nil (s : Step) (rest : List Step) :
    runAll (s :: rest) [] = s.octets ++ runAll rest [] := by
  rw [runAll, runAll_eq_append, run_eq_append, List.nil_append]

theorem length_octets (s : Step) :
    s.octets.length = padded (wordSize + s.toAttribute.payload.length) :=
  s.head.length_write s.fill

theorem dvd_length_run (s : Step) {buffer : Octets} (h : wordSize ∣ buffer.length) :
    wordSize ∣ (s.run buffer).length := by
  rw [run_eq_append]
  exact s.head.dvd_length_append_write s.fill h

end Step

/-! ### What has been written stays -/

/-- The buffer before and after a step. -/
structure Mark where
  before : Octets
  after : Octets

namespace Mark

/-- What the step has written. -/
def written (m : Mark) : Octets :=
  m.after.drop m.before.length

/-- What the step has written stands where it stood. Something may have been added behind it. -/
def Kept (m : Mark) (buffer : Octets) : Prop :=
  m.written <+: buffer.drop m.before.length

theorem kept_after (m : Mark) : m.Kept m.after :=
  List.prefix_refl _

theorem Kept.grow {m : Mark} {buffer later : Octets} (h : m.Kept buffer)
    (hgrows : buffer <+: later) : m.Kept later :=
  h.trans (List.IsPrefix.drop hgrows _)

end Mark

namespace Step

mutual

/-- The marks of a step: those of the steps inside of it, and then its own. The steps inside find a
buffer in which the word of this step says no length yet. -/
def marks : Step → Octets → List Mark
  | s@(bytes _ _), buffer => [⟨buffer, s.run buffer⟩]
  | s@(group head steps), buffer => marksAll steps (head.start buffer) ++ [⟨buffer, s.run buffer⟩]

/-- The marks of steps one after another, in the order in which they are finished. -/
def marksAll : List Step → Octets → List Mark
  | [], _ => []
  | s :: rest, buffer => s.marks buffer ++ marksAll rest (s.run buffer)

end

end Step

/-- What holds of the marks between two buffers. It is stated with both buffers so that steps can be
put one behind the other (`Traced.append`) and inside of one another (`Traced.finish`); the fields
`grows` and `begins` are what those two need, the others are what is to be shown. -/
structure Traced (before : Octets) (marks : List Mark) (after : Octets) : Prop where
  /-- The first buffer has been added to. -/
  grows : before <+: after
  /-- So it has before every step, -/
  begins : ∀ m ∈ marks, before <+: m.before
  /-- and a step adds to what it finds. -/
  adds : ∀ m ∈ marks, m.before <+: m.after
  /-- Every step finds what the steps before it have written, -/
  keeps : marks.Pairwise fun earlier later => earlier.Kept later.after
  /-- and so it is in the end. -/
  kept : ∀ m ∈ marks, m.Kept after
  /-- Steps that are taken after whole words add whole words. -/
  aligned : wordSize ∣ before.length → ∀ m ∈ marks, wordSize ∣ m.after.length

namespace Head

/-- Finishing an attribute leaves everything alone that is behind its word. It is not true of the
buffer as a whole, of which the word is changed, and so the part to be looked at is given by the
number of bytes in front of it. -/
theorem drop_prefix_finish (head : Head) (buffer contents : Octets) {n : Nat}
    (h : (head.start buffer).length ≤ n) :
    (head.start buffer ++ contents).drop n <+: (buffer ++ head.write contents).drop n := by
  let word' := Buffer.withLength (wordSize + (head.header ++ contents).length) head.word
  let fill := head.header ++ contents
  have hstart : head.start buffer ++ contents = (buffer ++ head.word) ++ fill := by
    simp [start_eq_append, fill]
  have hwrite : buffer ++ head.write contents =
      (buffer ++ word') ++ (fill ++ padding (wordSize + fill.length)) := by
    simp [write, word', fill]
  have hword : (buffer ++ word').length = (buffer ++ head.word).length := by
    simp [word']
  -- Both words have the same length, so that from behind them on the two buffers are `fill` and
  -- `fill` with its padding.
  obtain ⟨k, rfl⟩ : ∃ k, n = (buffer ++ head.word).length + k := by
    refine Nat.exists_eq_add_of_le ?_
    simp [start_eq_append] at h ⊢
    omega
  rw [hstart, hwrite, List.drop_length_add_append, ← hword, List.drop_length_add_append]
  exact List.IsPrefix.drop (List.prefix_append _ _) k

end Head

namespace Traced

variable {before middle after : Octets} {marks more : List Mark}

theorem nil (h : before <+: after) : Traced before [] after where
  grows := h
  begins := by simp
  adds := by simp
  keeps := List.Pairwise.nil
  kept := by simp
  aligned := by simp

/-- What is done first is kept by what is done next, which adds to it. A mark of the second part
begins behind the whole first part, so that the marks of the two need no comparison one by one. -/
theorem append (first : Traced before marks middle) (next : Traced middle more after)
    (hmiddle : wordSize ∣ before.length → wordSize ∣ middle.length) :
    Traced before (marks ++ more) after where
  grows := first.grows.trans next.grows
  begins := List.forall_mem_append.mpr
    ⟨first.begins, fun m hm => first.grows.trans (next.begins m hm)⟩
  adds := List.forall_mem_append.mpr ⟨first.adds, next.adds⟩
  keeps := by
    -- A mark of the first part is kept up to the middle, and from there on everything is added.
    refine List.pairwise_append.mpr ⟨first.keeps, next.keeps, ?_⟩
    intro earlier hearlier later hlater
    exact (first.kept earlier hearlier).grow
      ((next.begins later hlater).trans (next.adds later hlater))
  kept := List.forall_mem_append.mpr
    ⟨fun m hm => (first.kept m hm).grow next.grows, next.kept⟩
  aligned h := List.forall_mem_append.mpr ⟨first.aligned h, next.aligned (hmiddle h)⟩

/-- The step around others changes its own word only, which stands in front of what they wrote. So
everything that they have written is kept, and the mark of the step around them comes last. -/
theorem finish {head : Head} {buffer : Octets} (h : Traced (head.start buffer) marks after) :
    Traced buffer (marks ++ [⟨buffer, Buffer.finish buffer.length after⟩])
      (Buffer.finish buffer.length after) := by
  obtain ⟨contents, rfl⟩ := h.grows
  rw [head.finish_start]
  have hadds : buffer <+: buffer ++ head.write contents := List.prefix_append _ _
  have hstart : buffer <+: head.start buffer := by
    rw [head.start_eq_append]
    exact List.prefix_append _ _
  -- What was written inside begins behind the word and the header, and that part of the buffer is
  -- only added to.
  have hkept : ∀ m ∈ marks, m.Kept (buffer ++ head.write contents) := by
    intro m hm
    have hle := (h.begins m hm).length_le
    exact (h.kept m hm).trans (head.drop_prefix_finish buffer contents hle)
  refine ⟨hadds, ?begins, ?adds, ?keeps, ?kept, ?aligned⟩
  case begins =>
    exact List.forall_mem_append.mpr ⟨fun m hm => hstart.trans (h.begins m hm), by simp⟩
  case adds => exact List.forall_mem_append.mpr ⟨h.adds, by simp⟩
  case keeps =>
    refine List.pairwise_append.mpr ⟨h.keeps, List.pairwise_singleton _ _, ?_⟩
    intro earlier hearlier later hlater
    rw [List.mem_singleton.mp hlater]
    exact hkept earlier hearlier
  case kept =>
    exact List.forall_mem_append.mpr ⟨hkept, by simpa using Mark.kept_after ⟨_, _⟩⟩
  case aligned =>
    intro hbuffer
    refine List.forall_mem_append.mpr ⟨h.aligned (head.dvd_length_start hbuffer), ?_⟩
    simpa using head.dvd_length_append_write contents hbuffer

end Traced

namespace Step

mutual

/-- A step is traced by its marks. -/
theorem traced_marks : (s : Step) → (buffer : Octets) → Traced buffer (s.marks buffer) (s.run buffer)
  | bytes head value, buffer => by
      have hfill : Traced (head.start buffer) [] (head.start buffer ++ value) :=
        Traced.nil (List.prefix_append _ _)
      rw [marks, run]
      exact hfill.finish
  | group head steps, buffer => by
      rw [marks, run]
      exact (traced_marksAll steps (head.start buffer)).finish

/-- So are steps one after another. -/
theorem traced_marksAll : (steps : List Step) → (buffer : Octets) →
    Traced buffer (marksAll steps buffer) (runAll steps buffer)
  | [], buffer => by
      rw [marksAll, runAll]
      exact Traced.nil (List.prefix_refl _)
  | s :: rest, buffer => by
      rw [marksAll, runAll]
      exact (traced_marks s buffer).append (traced_marksAll rest (s.run buffer)) s.dvd_length_run

end

/-! ### The form in which messages are written -/

/-- The length of the attribute that a step adds fits its word. -/
def Small (s : Step) : Prop :=
  wordSize + s.toAttribute.payload.length < 0x1000000

theorem octets_eq_of_small {s : Step} (h : s.Small) : s.octets = s.toAttribute.octets :=
  Head.write_eq_octets h

/-- A step inside of others adds no more than they do together. -/
theorem length_octets_le {s : Step} {steps : List Step} (h : s ∈ steps) :
    s.octets.length ≤ (runAll steps []).length := by
  induction steps with
  | nil => cases h
  | cons t rest ih =>
      rw [runAll_cons_nil, List.length_append]
      obtain rfl | h := List.mem_cons.mp h
      · exact Nat.le_add_right _ _
      · exact Nat.le_add_left_of_le (ih h)

/-- What is inside of a small attribute is small. So it is enough to ask of the outermost attributes
of a body that their lengths fit. -/
theorem Small.inside {head : Head} {steps : List Step} (h : (group head steps).Small) :
    ∀ s ∈ steps, s.Small := by
  intro s hs
  have hle := length_octets_le hs
  have hpadded := le_padded (wordSize + s.toAttribute.payload.length)
  rw [length_octets] at hle
  simp only [Small, toAttribute, Head.payload_toAttribute, List.length_append, fill] at *
  omega

theorem toAttribute_ofNumber (name : String) (n : Number) :
    (ofNumber name n).toAttribute = valueAttribute.numberAttribute name n := by
  cases n with
  | integer n =>
      simp only [ofNumber, valueAttribute.numberAttribute, apply_ite toAttribute]
      rfl
  | double d => rfl

theorem octets_ofNumber (name : String) {n : Number} (h : (ofNumber name n).Small) :
    (ofNumber name n).octets = numberField name n := by
  rw [octets_eq_of_small h, toAttribute_ofNumber, numberField_eq_octets]

mutual

/-- A small field that is built is the field that is written. By recursion over the value with its
items and members; what is inside is small because the whole is (`Small.inside`). -/
theorem octets_ofValue {name : String} : (j : Json) → (ofValue name j).Small →
    (ofValue name j).octets = fieldOf name j
  | .null, h => octets_eq_of_small h
  | .bool _, h => octets_eq_of_small h
  | .number _, h => octets_ofNumber name h
  | .string _, h => octets_eq_of_small h
  | .array items, h => by
      rw [fieldOf, ← runAll_ofItems items (Small.inside h)]
      exact octets_eq_of_small h
  | .object members, h => by
      rw [fieldOf, ← runAll_ofMembers members (Small.inside h)]
      exact octets_eq_of_small h

theorem runAll_ofItems : (items : List Json) → (∀ s ∈ ofItems items, s.Small) →
    runAll (ofItems items) [] = itemsOf items
  | [], _ => by
      rw [ofItems, runAll, itemsOf]
  | j :: rest, h => by
      obtain ⟨hj, hrest⟩ := List.forall_mem_cons.mp h
      rw [ofItems, runAll_cons_nil, octets_ofValue j hj, runAll_ofItems rest hrest, itemsOf]

theorem runAll_ofMembers : (members : Json.Members) → (∀ s ∈ ofMembers members, s.Small) →
    runAll (ofMembers members) [] = fieldsOf members
  | [], _ => by
      rw [ofMembers, runAll, fieldsOf]
  | (name, j) :: rest, h => by
      obtain ⟨hj, hrest⟩ := List.forall_mem_cons.mp h
      rw [ofMembers, runAll_cons_nil, octets_ofValue j hj, runAll_ofMembers rest hrest, fieldsOf]

end

end Step

namespace Item

mutual

/-- A small item that is built is the item that is written. By recursion over the item; values
inside of it are those of `Step.octets_ofValue`. -/
theorem octets_step : (item : Item) → item.step.Small → item.step.octets = item.octets
  | raw _ _, h => Step.octets_eq_of_small h
  | nested id items, h => by
      rw [octets, ← runAll_steps items (Step.Small.inside h)]
      exact Step.octets_eq_of_small h
  | field _ value, h => Step.octets_ofValue value h
  | typeField _ _, h => Step.octets_eq_of_small h
  | table name items, h => by
      rw [octets, ← runAll_steps items (Step.Small.inside h)]
      exact Step.octets_eq_of_small h

theorem runAll_steps : (items : List Item) → (∀ s ∈ steps items, s.Small) →
    Step.runAll (steps items) [] = body items
  | [], _ => by
      rw [steps, Step.runAll, body]
  | item :: rest, h => by
      obtain ⟨hitem, hrest⟩ := List.forall_mem_cons.mp h
      rw [steps, Step.runAll_cons_nil, octets_step item hitem, runAll_steps rest hrest, body]

end

/-- The attribute that an item leaves in the buffer. What fills a group is the buffer that its own
items build. -/
def built : Item → Attribute
  | raw id payload => ⟨id, false, payload⟩
  | nested id items => ⟨id, false, build items⟩
  | field name (.object members) => fieldAttribute tableType name (build (fields members))
  | field name (.array values) => fieldAttribute arrayType name (build (values.map (field "")))
  | field name value => valueAttribute name value
  | typeField name type => fieldAttribute int32Type name (Octets.bigEndian 4 type.toNat)
  | table name items => fieldAttribute tableType name (build items)

theorem steps_eq_map (items : List Item) : steps items = items.map step := by
  induction items with
  | nil => rw [steps, List.map_nil]
  | cons item rest ih => rw [steps, ih, List.map_cons]

theorem steps_fields (members : Json.Members) :
    steps (fields members) = Step.ofMembers members := by
  induction members with
  | nil => rw [Step.ofMembers]; rfl
  | cons m rest ih =>
      obtain ⟨name, j⟩ := m
      rw [Step.ofMembers, ← ih]
      rfl

theorem steps_map_field (values : List Json) :
    steps (values.map (field "")) = Step.ofItems values := by
  induction values with
  | nil => rw [Step.ofItems]; rfl
  | cons j rest ih =>
      rw [Step.ofItems, ← ih]
      rfl

theorem built_eq (item : Item) : item.built = item.step.toAttribute := by
  cases item with
  | field name value =>
      cases value with
      | array values =>
          rw [built, build, steps_map_field]
          rfl
      | object members =>
          rw [built, build, steps_fields]
          rfl
      | number n => exact (Step.toAttribute_ofNumber name n).symm
      | _ => rfl
  | _ => rfl

/-- To fit is to be small and to have an id of seven bits, of which only the first matters for what
is built. -/
theorem small_of_built {items : List Item} (h : ∀ item ∈ items, item.built.Fits) :
    ∀ s ∈ steps items, s.Small := by
  rw [steps_eq_map]
  refine List.forall_mem_map.mpr ?_
  intro item hitem
  rw [Step.Small, ← built_eq]
  exact (h item hitem).length_lt

/-- A buffer of small attributes is made up of them, one for each item. -/
theorem build_eq_octetsOf {items : List Item} (h : ∀ item ∈ items, item.built.Fits) :
    build items = Attribute.octetsOf (items.map built) := by
  unfold build
  induction items with
  | nil => rw [steps, Step.runAll]; rfl
  | cons item rest ih =>
      obtain ⟨hitem, hrest⟩ := List.forall_mem_cons.mp h
      have hsmall := small_of_built h item.step (by simp [steps])
      rw [steps, Step.runAll_cons_nil, ih hrest, Step.octets_eq_of_small hsmall, ← built_eq,
        List.map_cons, Attribute.octetsOf_cons]

/-- The marks of all steps that build a buffer. -/
def marks (items : List Item) : List Mark :=
  Step.marksAll (steps items) []

/-- **What is built in place is read back.** Whatever the items and however deep inside of one
another, every step adds to the buffer that it finds and leaves whole words, and what it has written
is there after every later step and in the end. The buffer holds one attribute for each item, in
their order, and it is the body that messages are written with. -/
theorem built_in_place (items : List Item) (h : ∀ item ∈ items, item.built.Fits) :
    (∀ m ∈ marks items, m.before <+: m.after ∧ wordSize ∣ m.after.length) ∧
      (marks items).Pairwise (fun earlier later => earlier.Kept later.after) ∧
      (∀ m ∈ marks items, m.Kept (build items)) ∧
      Attribute.parseAll (build items) = .ok (items.map built) ∧
      build items = body items := by
  have htraced : Traced [] (marks items) (build items) := Step.traced_marksAll (steps items) []
  have haligned := htraced.aligned (Nat.dvd_zero _)
  have hfits : ∀ a ∈ items.map built, a.Fits := List.forall_mem_map.mpr h
  refine ⟨fun m hm => ⟨htraced.adds m hm, haligned m hm⟩, htraced.keeps, htraced.kept, ?_, ?_⟩
  · rw [build_eq_octetsOf h, Attribute.parseAll_octetsOf hfits]
  · exact runAll_steps items (small_of_built h)

/-- A text, and a group of a table and a number. -/
theorem built_in_place_group :
    let inner := [table "t" [typeField "k" 5], word 3 0x1234]
    (∀ item ∈ [text 4 "echo", nested 7 inner], item.built.Fits) ∧
      Attribute.parseAll (build [text 4 "echo", nested 7 inner]) =
        .ok [⟨4, false, endedText "echo"⟩, ⟨7, false, build inner⟩] := by
  intro inner
  have hfits : ∀ item ∈ [text 4 "echo", nested 7 inner], item.built.Fits := by
    refine List.forall_mem_cons.mpr ⟨⟨by decide, by decide +kernel⟩, ?_⟩
    exact List.forall_mem_singleton.mpr ⟨by decide, by decide +kernel⟩
  obtain ⟨-, -, -, hread, -⟩ := built_in_place _ hfits
  exact ⟨hfits, hread⟩

/-- The name in front of the inner fields and the word of their table are written before them, and
the length of the table is put in when they stand. -/
example :
    build [field "a" (.object [("b", .bool true)])] =
      [130, 0, 0, 20, 0, 1, 97, 0, 135, 0, 0, 9, 0, 1, 98, 0, 1, 0, 0, 0] ∧
    (marks [field "a" (.object [("b", .bool true)])]).map (·.before) =
      [[130, 0, 0, 0, 0, 1, 97, 0], []] := by
  decide +kernel

end Item
end Switchyard.Bus
