import Switchyard.Proofs.Bus.Attribute

/-!
# Switchyard.Proofs.Bus.Layout

**A run of bytes is read exactly when it is made of attributes** (`accepted_iff_laidOut`). What is
written is only one form of what can be read: padding may have any value, and the last one may be
cut short.

* `Block` — the bytes of one attribute as a run has them, and `LaidOut` — what a row of blocks has
  to keep to.
* `exists_block_of_parse`, `parse_block` — reading one attribute takes one block off the front, no
  more and no less. No other lemma opens `parse`.
* `parseOnto_eq_ok`, `parseOnto_run` — from there by induction on the rounds, and on the blocks.
* `parseOnto_of_le` — each round shortens the run, so it is never the fuel that ends the reading.

The two directions use different lemmas. Of a run that was read, each round gives a block, and the
row of them is put together from the front (`parseOnto_eq_ok`). Of a row of blocks, each block is
read as its attribute (`parseOnto_run`). What ties them is `laidOut_cons_iff`: a row is a block and
a row, and the condition on the padding of the block is only whether anything stands behind it.
-/

namespace Switchyard.Bus

/-- The bytes of an attribute in a run: the word in front, the payload, and what pads them. -/
structure Block where
  word : Octets
  payload : Octets
  pad : Octets

namespace Block

/-- The bytes of a block. -/
def octets (b : Block) : Octets :=
  b.word ++ (b.payload ++ b.pad)

/-- The length that the word tells: its low 24 bits. It counts the word itself. -/
def told (b : Block) : Nat :=
  Octets.ofBigEndian b.word % 0x1000000

/-- How many bytes there are from the told length to the next multiple of four. -/
def room (b : Block) : Nat :=
  padded b.told - b.told

/-- The attribute that a block holds: flag and id are in the word. -/
def toAttribute (b : Block) : Attribute :=
  ⟨UInt8.ofNat (Octets.ofBigEndian b.word / 0x1000000 % 128),
    0x80000000 ≤ Octets.ofBigEndian b.word, b.payload⟩

/-- The word is whole, and it tells the length of itself and the payload. The padding is not longer
than it has to be; its bytes may be any. -/
structure Sound (b : Block) : Prop where
  word : b.word.length = wordSize
  told : b.told = wordSize + b.payload.length
  pad : b.pad.length ≤ b.room

/-- Only at the end of a run the padding may be cut short. -/
def Ends (b : Block) (rest : Octets) : Prop :=
  rest ≠ [] → b.pad.length = b.room

/-- The bytes of blocks one after another. -/
def run (blocks : List Block) : Octets :=
  blocks.flatMap octets

/-- Blocks that make up a run: each of them is sound, and the padding of each but the last is whole.
The last one may end with its payload or anywhere in its padding. -/
structure LaidOut (blocks : List Block) : Prop where
  sound : ∀ b ∈ blocks, b.Sound
  whole : ∀ b ∈ blocks.dropLast, b.pad.length = b.room

@[simp] theorem run_nil : run [] = [] := rfl

@[simp] theorem run_cons (b : Block) (blocks : List Block) :
    run (b :: blocks) = b.octets ++ run blocks := rfl

@[simp] theorem payload_toAttribute (b : Block) : b.toAttribute.payload = b.payload := rfl

variable {b : Block}

theorem length_octets (h : b.Sound) : b.octets.length = b.told + b.pad.length := by
  simp only [octets, List.length_append, h.word, h.told]
  omega

theorem wordSize_le_length (h : b.Sound) : wordSize ≤ b.octets.length := by
  simp only [octets, List.length_append, h.word]
  omega

theorem length_octets_of_whole (h : b.Sound) (hwhole : b.pad.length = b.room) :
    b.octets.length = padded (wordSize + b.payload.length) := by
  have hle := le_padded b.told
  rw [length_octets h, hwhole, room, h.told] at *
  omega

/-- What is missing of a block is less than a word, since only its padding may be cut. -/
theorem length_octets_bounds (h : b.Sound) :
    b.octets.length ≤ padded (wordSize + b.payload.length) ∧
      padded (wordSize + b.payload.length) < b.octets.length + wordSize := by
  have hpad := h.pad
  have hle := le_padded b.told
  have hlt := padded_lt b.told
  rw [length_octets h, ← h.told]
  simp only [room, wordSize] at *
  omega

theorem octets_ne_nil (h : b.Sound) : b.octets ≠ [] := by
  intro hnil
  have hle := wordSize_le_length h
  simp [hnil, wordSize] at hle

theorem run_ne_nil {blocks : List Block} (h : LaidOut blocks) (hne : blocks ≠ []) :
    run blocks ≠ [] := by
  cases blocks with
  | nil => exact absurd rfl hne
  | cons b blocks => simp [octets_ne_nil (h.sound b List.mem_cons_self)]

/-- A row of blocks is a first block, whose padding is whole if anything is behind it, and a row. As
a sound block has bytes, there is something behind it exactly if there is another block. -/
theorem laidOut_cons_iff {blocks : List Block} :
    LaidOut (b :: blocks) ↔ b.Sound ∧ b.Ends (run blocks) ∧ LaidOut blocks := by
  constructor
  · intro h
    have hblocks : LaidOut blocks := by
      refine ⟨fun c hc => h.sound c (List.mem_cons_of_mem b hc), fun c hc => h.whole c ?_⟩
      cases blocks with
      | nil => exact absurd hc List.not_mem_nil
      | cons c blocks => exact List.mem_cons_of_mem b hc
    refine ⟨h.sound b List.mem_cons_self, fun hrest => h.whole b ?_, hblocks⟩
    cases blocks with
    | nil => exact absurd rfl hrest
    | cons c blocks => exact List.mem_cons_self
  · rintro ⟨hb, hends, hblocks⟩
    refine ⟨List.forall_mem_cons.mpr ⟨hb, hblocks.sound⟩, fun c hc => ?_⟩
    cases blocks with
    | nil => exact absurd hc List.not_mem_nil
    | cons d blocks =>
        rcases List.mem_cons.mp hc with rfl | hc
        · exact hends (run_ne_nil hblocks (List.cons_ne_nil d blocks))
        · exact hblocks.whole c hc

end Block

namespace Attribute

open Block (LaidOut run)

/-! ### One attribute -/

/-- The first bytes as a number, and all of them apart. There are enough bytes or the number is an
error. -/
theorem leadingNumber_eq_ok_iff {width n : Nat} {s : Octets} :
    leadingNumber width s = .ok n ↔
      ∃ head rest, s = head ++ rest ∧ head.length = width ∧ n = Octets.ofBigEndian head := by
  unfold leadingNumber
  cases hsplit : Octets.splitExact? width s with
  | none =>
      constructor
      · intro h
        cases h
      · rintro ⟨head, rest, hs, hlength, -⟩
        rw [Octets.splitExact?_eq_some_iff.mpr ⟨hs, hlength⟩] at hsplit
        cases hsplit
  | some parts =>
      obtain ⟨head, rest⟩ := parts
      obtain ⟨hs, hlength⟩ := Octets.splitExact?_eq_some_iff.mp hsplit
      constructor
      · intro h
        cases h
        exact ⟨head, rest, hs, hlength, rfl⟩
      · rintro ⟨head', rest', hs', hlength', rfl⟩
        rw [(List.append_inj (hs.symm.trans hs') (hlength.trans hlength'.symm)).1]

/-- Padding is dropped, be it whole or the end of the run. -/
theorem drop_room {b : Block} {rest : Octets} (hpad : b.pad.length ≤ b.room) (hends : b.Ends rest) :
    (b.pad ++ rest).drop b.room = rest := by
  by_cases hrest : rest = []
  · simp [hrest, hpad]
  · rw [← hends hrest, List.drop_left]

/-- What is taken off a run was a block, and the rest is what stood behind it. If there is a rest,
the padding was whole, because the reader leaves nothing of it. -/
theorem exists_block_of_parse {s rest : Octets} {a : Attribute} (h : parse s = .ok (a, rest)) :
    ∃ b : Block, b.Sound ∧ b.Ends rest ∧ s = b.octets ++ rest ∧ a = b.toAttribute := by
  unfold parse at h
  cases hnumber : leadingNumber wordSize s with
  | error e => simp [hnumber] at h
  | ok n =>
      -- The run is the word and what stands behind it, and that begins with a payload of the told
      -- length.
      obtain ⟨word, behind, rfl, hword, rfl⟩ := leadingNumber_eq_ok_iff.mp hnumber
      have hbehind : (word ++ behind).drop wordSize = behind := by
        rw [← hword, List.drop_left]
      simp only [hnumber, hbehind] at h
      split at h
      · cases h
      · rename_i hle
        cases hsplit : Octets.splitExact?
            (Octets.ofBigEndian word % 0x1000000 - wordSize) behind with
        | none => simp [hsplit] at h
        | some parts =>
            obtain ⟨payload, tail⟩ := parts
            obtain ⟨rfl, hpayload⟩ := Octets.splitExact?_eq_some_iff.mp hsplit
            simp only [hsplit, Except.ok.injEq, Prod.mk.injEq] at h
            obtain ⟨rfl, rfl⟩ := h
            -- The padding is what stands before the rest that is left.
            let b : Block := ⟨word, payload,
              tail.take (padded (Octets.ofBigEndian word % 0x1000000) -
                Octets.ofBigEndian word % 0x1000000)⟩
            refine ⟨b, ⟨hword, ?_, List.length_take_le _ _⟩, fun hrest => ?_, ?_, rfl⟩
            · show Octets.ofBigEndian word % 0x1000000 = wordSize + payload.length
              omega
            · have hlt := List.drop_eq_nil_iff.not.mp hrest
              exact List.length_take_of_le (by omega)
            · simp [b, Block.octets]

/-- A block is taken off the front of a run, padding and all, whatever is behind it. -/
theorem parse_block {b : Block} (hb : b.Sound) {rest : Octets} (hends : b.Ends rest) :
    parse (b.octets ++ rest) = .ok (b.toAttribute, rest) := by
  have hnumber : leadingNumber wordSize (b.octets ++ rest) = .ok (Octets.ofBigEndian b.word) :=
    leadingNumber_eq_ok_iff.mpr ⟨b.word, b.payload ++ b.pad ++ rest, by simp [Block.octets],
      hb.word, rfl⟩
  have hbehind : (b.octets ++ rest).drop wordSize = b.payload ++ (b.pad ++ rest) := by
    rw [← hb.word]
    simp [Block.octets]
  have htold : Octets.ofBigEndian b.word % 0x1000000 = wordSize + b.payload.length := hb.told
  have hrest := drop_room hb.pad hends
  rw [Block.room, hb.told] at hrest
  unfold parse
  simp only [hnumber, htold, hbehind, Nat.add_sub_cancel_left, Octets.splitExact?_append, hrest]
  rw [if_neg (by omega)]
  rfl

theorem length_lt_of_parse {s rest : Octets} {a : Attribute} (h : parse s = .ok (a, rest)) :
    rest.length < s.length := by
  obtain ⟨b, hb, -, rfl, -⟩ := exists_block_of_parse h
  have hle := Block.wordSize_le_length hb
  simp only [List.length_append, wordSize] at *
  omega

/-! ### Runs -/

/-- Fuel for every byte is enough: a round leaves fewer bytes. So two amounts of fuel that both
suffice give the same, and the fuel can be left out of the result. -/
theorem parseOnto_of_le {fuel more : Nat} {s : Octets} (hfuel : s.length ≤ fuel)
    (hmore : s.length ≤ more) (acc : List Attribute) :
    parseOnto fuel acc s = parseOnto more acc s := by
  induction fuel generalizing more acc s with
  | zero =>
      rw [List.length_eq_zero_iff.mp (Nat.le_zero.mp hfuel), parseOnto, parseOnto]
  | succ fuel ih =>
      by_cases hs : s = []
      · rw [hs, parseOnto, parseOnto]
      · obtain ⟨more, rfl⟩ : ∃ n, more = n + 1 := by
          have hpos := List.length_pos_iff.mpr hs
          exact Nat.exists_eq_add_one.mpr (by omega)
        rw [parseOnto.eq_3 _ _ _ hs, parseOnto.eq_3 _ _ _ hs]
        cases hparse : parse s with
        | error e => rfl
        | ok taken =>
            obtain ⟨a, rest⟩ := taken
            have hlt := length_lt_of_parse hparse
            exact ih (by omega) (by omega) (a :: acc)

/-- What is read to its end is a row of blocks. By induction on the fuel; the run is empty or a
round was successful. -/
theorem parseOnto_eq_ok {fuel : Nat} {acc as : List Attribute} {s : Octets}
    (h : parseOnto fuel acc s = .ok as) :
    ∃ blocks, LaidOut blocks ∧ s = run blocks ∧
      as = acc.reverse ++ blocks.map Block.toAttribute := by
  induction fuel generalizing acc s with
  | zero =>
      cases s with
      | nil =>
          cases h
          exact ⟨[], ⟨nofun, nofun⟩, rfl, by simp⟩
      | cons b s => cases h
  | succ fuel ih =>
      by_cases hs : s = []
      · subst hs
        cases h
        exact ⟨[], ⟨nofun, nofun⟩, rfl, by simp⟩
      · rw [parseOnto.eq_3 _ _ _ hs] at h
        cases hparse : parse s with
        | error e => simp [hparse] at h
        | ok taken =>
            obtain ⟨a, rest⟩ := taken
            simp only [hparse] at h
            obtain ⟨b, hb, hends, rfl, rfl⟩ := exists_block_of_parse hparse
            obtain ⟨blocks, hblocks, rfl, rfl⟩ := ih h
            exact ⟨b :: blocks, Block.laidOut_cons_iff.mpr ⟨hb, hends, hblocks⟩, rfl, by simp⟩

/-- A row of blocks is read to its end. By induction on the blocks, for any fuel of at least as many
rounds as bytes. -/
theorem parseOnto_run {blocks : List Block} (h : LaidOut blocks) {fuel : Nat}
    (hfuel : (run blocks).length ≤ fuel) (acc : List Attribute) :
    parseOnto fuel acc (run blocks) = .ok (acc.reverse ++ blocks.map Block.toAttribute) := by
  induction blocks generalizing fuel acc with
  | nil => simp [parseOnto]
  | cons b blocks ih =>
      obtain ⟨hb, hends, hblocks⟩ := Block.laidOut_cons_iff.mp h
      have hne := Block.run_ne_nil h (List.cons_ne_nil b blocks)
      have hparse : parse (run (b :: blocks)) = .ok (b.toAttribute, run blocks) :=
        parse_block hb hends
      have hlt := length_lt_of_parse hparse
      obtain ⟨fuel, rfl⟩ : ∃ n, fuel = n + 1 := Nat.exists_eq_add_one.mpr (by omega)
      rw [parseOnto.eq_3 _ _ _ hne, hparse]
      dsimp only
      rw [ih hblocks (by omega)]
      simp

theorem parseAll_eq_ok_iff {s : Octets} {as : List Attribute} :
    parseAll s = .ok as ↔
      ∃ blocks, LaidOut blocks ∧ s = run blocks ∧ as = blocks.map Block.toAttribute := by
  constructor
  · exact parseOnto_eq_ok
  · rintro ⟨blocks, hblocks, rfl, rfl⟩
    exact parseOnto_run hblocks (Nat.le_refl _) []

/-! ### Places -/

/-- How many bytes attributes take with all of their padding. It is computed from the payloads
alone, so that the places of attributes can be told from the result of reading. -/
def span (as : List Attribute) : Nat :=
  (as.map fun a => padded (wordSize + a.payload.length)).sum

/-- Attributes side by side in a run. Each begins where the padding of those before it ends, and its
payload stands behind its word; where the last one ends, but for padding, the run ends. So no byte
belongs to two attributes, and none to no attribute. -/
structure Tiles (as : List Attribute) (s : Octets) : Prop where
  payload : ∀ before a after, as = before ++ a :: after →
    ∃ front back, s = front ++ (a.payload ++ back) ∧ front.length = span before + wordSize
  covers : s.length ≤ span as ∧ span as < s.length + wordSize

@[simp] theorem span_nil : span [] = 0 := rfl

@[simp] theorem span_cons (a : Attribute) (as : List Attribute) :
    span (a :: as) = padded (wordSize + a.payload.length) + span as := by
  simp [span]

@[simp] theorem span_append (as bs : List Attribute) : span (as ++ bs) = span as + span bs := by
  simp [span]

theorem length_run_of_whole {blocks : List Block} (hsound : ∀ b ∈ blocks, b.Sound)
    (hwhole : ∀ b ∈ blocks, b.pad.length = b.room) :
    (run blocks).length = span (blocks.map Block.toAttribute) := by
  induction blocks with
  | nil => rfl
  | cons b blocks ih =>
      obtain ⟨hb, hblocks⟩ := List.forall_mem_cons.mp hsound
      obtain ⟨hpad, hpads⟩ := List.forall_mem_cons.mp hwhole
      simp [Block.length_octets_of_whole hb hpad, ih hblocks hpads]

/-- In a row of blocks, all that stand before another one take their whole span, since none of them
is the last. -/
theorem length_run_before {before after : List Block} {b : Block}
    (h : LaidOut (before ++ b :: after)) :
    (run before).length = span (before.map Block.toAttribute) := by
  refine length_run_of_whole (fun c hc => h.sound c (List.mem_append_left _ hc)) fun c hc => ?_
  apply h.whole c
  rw [List.dropLast_append_of_ne_nil (List.cons_ne_nil b after)]
  exact List.mem_append_left _ hc

theorem tiles_of_laidOut {blocks : List Block} (h : LaidOut blocks) :
    Tiles (blocks.map Block.toAttribute) (run blocks) := by
  constructor
  · intro before a after hsplit
    obtain ⟨bsBefore, bsRest, rfl, rfl, hrest⟩ := List.map_eq_append_iff.mp hsplit
    obtain ⟨b, bsAfter, rfl, rfl, -⟩ := List.map_eq_cons_iff.mp hrest
    have hb := h.sound b (by simp)
    refine ⟨run bsBefore ++ b.word, b.pad ++ run bsAfter, ?_, ?_⟩
    · simp [run, Block.octets]
    · rw [List.length_append, length_run_before h, hb.word]
  -- The last block is the only one that may be short, so that the row is taken apart there.
  · rcases List.eq_nil_or_concat blocks with rfl | ⟨before, b, rfl⟩
    · simp [wordSize]
    · rw [List.concat_eq_append] at h ⊢
      have hlength : (run (before ++ [b])).length = (run before).length + b.octets.length := by
        simp [run]
      have hspan : span ((before ++ [b]).map Block.toAttribute) =
          span (before.map Block.toAttribute) + padded (wordSize + b.payload.length) := by
        simp
      have hbounds := Block.length_octets_bounds (h.sound b (by simp))
      rw [hlength, hspan, length_run_before h]
      omega

/-- **A run is accepted exactly when it is laid out as attributes.** Each round of the reading
leaves fewer bytes, so that it ends with the same result under any fuel for as many rounds as there
are bytes. It gives attributes exactly when the run is a row of blocks with whole paddings, but
perhaps for the last one; then these are the attributes of the blocks in their order, and their
payloads stand side by side and cover the run together with words and paddings. -/
theorem accepted_iff_laidOut (s : Octets) :
    (∀ a rest, parse s = .ok (a, rest) → rest.length < s.length) ∧
    (∀ fuel, s.length ≤ fuel → parseOnto fuel [] s = parseAll s) ∧
    (∀ as, parseAll s = .ok as ↔
      ∃ blocks, LaidOut blocks ∧ s = run blocks ∧ as = blocks.map Block.toAttribute) ∧
    ∀ as, parseAll s = .ok as → Tiles as s := by
  refine ⟨fun a rest => length_lt_of_parse, ?_, fun as => parseAll_eq_ok_iff, ?_⟩
  · intro fuel hfuel
    exact parseOnto_of_le hfuel (Nat.le_refl _) []
  · intro as h
    obtain ⟨blocks, hblocks, rfl, rfl⟩ := parseAll_eq_ok_iff.mp h
    exact tiles_of_laidOut hblocks

/-- A run whose last padding is cut short, with other bytes than zeros for padding, is accepted;
without the last byte of the payload it is not. -/
example :
    parseAll [4, 0, 0, 5, 7, 1, 2, 3, 131, 0, 0, 6, 8, 9, 1] =
      .ok [⟨4, false, [7]⟩, ⟨3, true, [8, 9]⟩] ∧
    parseAll [4, 0, 0, 5, 7, 1, 2, 3, 131, 0, 0, 6, 8] = .error (.malformed .attributeLength) := by
  decide +kernel

end Attribute
end Switchyard.Bus
