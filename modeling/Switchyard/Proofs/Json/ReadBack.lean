import Switchyard.Proofs.Json.Ordered
import Switchyard.Proofs.Json.Scalars

/-!
# Switchyard.Proofs.Json.ReadBack

**A printed value is read back as that value** (`parse_render`), if its numbers are integers, it
opens fewer containers inside each other than the reader allows, and the keys of its objects are in
order.

* `ReadAs` — a text stands for a value, whatever delimiter comes behind it. Fuel for every byte of
  the text twice is enough, since no byte takes more than two nested calls.
* `readItems_spelling`, `readMembers_spelling` — entries in a row are read when each of them is. An
  object is put in order as it is read (`readAs_object`), so that its members may stand in the text
  in any order.
* `readAs_spelling` — from there by induction on the value.

The fuel is counted in bytes and not in calls, so every lemma has a hypothesis that says how many
bytes of text there are for it; a comma, a bracket or a brace pays for the calls that go on behind
it. The levels of nesting are counted in the other direction: a text may need so many, and the
reader must have more. Both can be raised at will, by `ReadAs.mono` and because the fuel is any that
is large enough.
-/

namespace Switchyard.Json

/-! ### What is printed without loss -/

mutual

/-- Every number in the value is an integer. A double is printed with the digits that tell it from
its neighbours, and reading these back is not treated here. -/
def Integral : Json → Prop
  | .number (.double _) => False
  | .array items => IntegralItems items
  | .object members => IntegralMembers members
  | _ => True

/-- Every value of a list is integral. -/
def IntegralItems : List Json → Prop
  | [] => True
  | j :: rest => Integral j ∧ IntegralItems rest

/-- The value of every member is integral. -/
def IntegralMembers : Members → Prop
  | [] => True
  | (_, j) :: rest => Integral j ∧ IntegralMembers rest

end

mutual

/-- How many containers of the value stand inside each other. -/
def nesting : Json → Nat
  | .array items => nestingItems items + 1
  | .object members => nestingMembers members + 1
  | _ => 0

/-- The most that a value of a list nests. -/
def nestingItems : List Json → Nat
  | [] => 0
  | j :: rest => max (nesting j) (nestingItems rest)

/-- The most that the value of a member nests. -/
def nestingMembers : Members → Nat
  | [] => 0
  | (_, j) :: rest => max (nesting j) (nestingMembers rest)

end

/-! ### Texts of values -/

/-- The text is read as the value by a reader that may open that many containers. It holds for every
fuel of at least twice as many as there are bytes, and for whatever stands behind the text as long
as that is a delimiter. -/
def ReadAs (levels : Nat) (text : Octets) (j : Json) : Prop :=
  ∀ ⦃fuel depth : Nat⦄ ⦃rest : Octets⦄, 2 * text.length ≤ fuel → levels < depth →
    Delimited rest → readValue fuel depth (text ++ rest) = .ok (j, rest)

variable {text : Octets} {j : Json} {levels fuel depth : Nat} {rest : Octets}

theorem ReadAs.mono {more : Nat} (h : ReadAs levels text j) (hle : levels ≤ more) :
    ReadAs more text j :=
  fun _ _ _ hfuel hdepth hrest => h hfuel (Nat.lt_of_le_of_lt hle hdepth) hrest

theorem delimited_nil : Delimited [] :=
  nofun

theorem delimited_cons {b : UInt8} (h : b = 0x2C ∨ b = 0x5D ∨ b = 0x7D) (rest : Octets) :
    Delimited (b :: rest) := by
  intro c hc
  cases hc
  exact h

theorem delimited_items (items : List Json) (rest : Octets) :
    Delimited (spellingItems items ++ rest) := by
  cases items with
  | nil => exact delimited_cons (by decide) _
  | cons j items => exact delimited_cons (by decide) _

theorem delimited_members (members : Members) (rest : Octets) :
    Delimited (spellingMembers members ++ rest) := by
  cases members with
  | nil => exact delimited_cons (by decide) _
  | cons m members => exact delimited_cons (by decide) _

/-! ### Lists -/

theorem skipBlanks_idem (s : Octets) : skipBlanks (skipBlanks s) = skipBlanks s := by
  induction s with
  | nil => rfl
  | cons b s ih =>
      rw [skipBlanks]
      split
      · exact ih
      · rename_i hb
        rw [skipBlanks, if_neg hb]

theorem readValue_skipBlanks (fuel depth : Nat) (s : Octets) :
    readValue (fuel + 1) depth (skipBlanks s) = readValue (fuel + 1) depth s := by
  rw [readValue, readValue, skipBlanks_idem]

/-- Where a value can be read there is an item, and not the end of the list. It is said for both
places at which the reader looks: after the opening bracket and after a comma. -/
theorem nextItem_of_readValue {s : Octets} (h : readValue (fuel + 1) depth s = .ok (j, rest)) :
    nextItem true s = .ok (some (skipBlanks s)) ∧
      nextItem false (0x2C :: s) = .ok (some (skipBlanks s)) := by
  cases hs : skipBlanks s with
  | nil =>
      rw [readValue, hs] at h
      cases h
  | cons b t =>
      -- No value begins with the bracket that ends a list.
      have hb : b ≠ 0x5D := by
        rintro rfl
        have herror : readValue (fuel + 1) depth s = .error (.next .expectedValue (0x5D :: t)) := by
          rw [readValue, hs]
          rfl
        rw [herror] at h
        cases h
      have hcomma : skipBlanks (0x2C :: s) = 0x2C :: s := rfl
      constructor
      · rw [nextItem, hs]
        dsimp only
        rw [if_neg hb, if_pos rfl]
      · rw [nextItem, hcomma]
        dsimp only
        rw [if_neg (by decide), if_neg Bool.false_ne_true, if_pos rfl, hs]
        dsimp only
        rw [if_neg hb]

theorem readItems_first {s : Octets} (h : readValue (fuel + 1) depth s = .ok (j, rest)) :
    readItems (fuel + 2) depth [] s = readItems (fuel + 1) depth [j] rest := by
  rw [readItems, List.isEmpty_nil, (nextItem_of_readValue h).1]
  dsimp only
  rw [readValue_skipBlanks, h]

theorem readItems_next {s : Octets} (h : readValue (fuel + 1) depth s = .ok (j, rest)) (a : Json)
    (acc : List Json) :
    readItems (fuel + 2) depth (a :: acc) (0x2C :: s) =
      readItems (fuel + 1) depth (j :: a :: acc) rest := by
  rw [readItems, List.isEmpty_cons, (nextItem_of_readValue h).2]
  dsimp only
  rw [readValue_skipBlanks, h]

/-- Items in a row are read when each of them is. By induction on the items, with those that have
been read in the other order. -/
theorem readItems_spelling {items : List Json}
    (h : ∀ j ∈ items, ReadAs levels (spelling j) j)
    (hfuel : 2 * (spellingItems items).length ≤ fuel) (hdepth : levels < depth) (a : Json)
    (acc : List Json) (rest : Octets) :
    readItems fuel depth (a :: acc) (spellingItems items ++ rest) =
      .ok (.array ((a :: acc).reverse ++ items), rest) := by
  induction items generalizing fuel a acc with
  | nil =>
      obtain ⟨fuel, rfl⟩ : ∃ n, fuel = n + 1 := Nat.exists_eq_add_one.mpr (by
        simp only [spellingItems, List.length_singleton] at hfuel
        omega)
      rw [List.append_nil]
      rfl
  | cons j items ih =>
      obtain ⟨hj, hitems⟩ := List.forall_mem_cons.mp h
      -- The comma pays for the two calls, of the list and of the item.
      rw [spellingItems, List.length_cons, List.length_append] at hfuel
      obtain ⟨fuel, rfl⟩ : ∃ n, fuel = n + 2 := Nat.exists_eq_add_of_le' (by omega)
      have hvalue : readValue (fuel + 1) depth (spelling j ++ (spellingItems items ++ rest)) =
          .ok (j, spellingItems items ++ rest) :=
        hj (by omega) hdepth (delimited_items items rest)
      rw [spellingItems, List.cons_append, List.append_assoc, readItems_next hvalue,
        ih hitems (by omega), List.reverse_cons, List.append_assoc, List.singleton_append]

theorem length_spellingItems_pos (items : List Json) : 0 < (spellingItems items).length := by
  cases items with
  | nil => exact Nat.one_pos
  | cons j items => exact Nat.succ_pos _

theorem readValue_list (hdepth : 1 < depth) (s : Octets) :
    readValue (fuel + 1) depth (0x5B :: s) = readItems fuel (depth - 1) [] s := by
  have hblank : skipBlanks (0x5B :: s) = 0x5B :: s := rfl
  have hopen : readValue (fuel + 1) depth (0x5B :: s) =
      if depth ≤ 1 then .error (.next .tooDeep (0x5B :: s))
      else readItems fuel (depth - 1) [] s := by
    rw [readValue, hblank]
    rfl
  rw [hopen, if_neg (Nat.not_le.mpr hdepth)]

/-- A list is read when its items are. -/
theorem readAs_array {items : List Json} (h : ∀ j ∈ items, ReadAs levels (spelling j) j) :
    ReadAs (levels + 1) (spelling (.array items)) (.array items) := by
  intro fuel depth rest hfuel hdepth _
  cases items with
  | nil =>
      obtain ⟨fuel, rfl⟩ : ∃ n, fuel = n + 2 := Nat.exists_eq_add_of_le' (by
        simp only [spelling, List.length_cons] at hfuel
        omega)
      rw [spelling, List.cons_append, readValue_list (by omega)]
      rfl
  | cons j items =>
      obtain ⟨hj, hitems⟩ := List.forall_mem_cons.mp h
      have hpos := length_spellingItems_pos items
      rw [spelling, List.length_cons, List.length_append] at hfuel
      obtain ⟨fuel, rfl⟩ : ∃ n, fuel = n + 3 := Nat.exists_eq_add_of_le' (by omega)
      have hvalue : readValue (fuel + 1) (depth - 1)
          (spelling j ++ (spellingItems items ++ rest)) = .ok (j, spellingItems items ++ rest) :=
        hj (by omega) (by omega) (delimited_items items rest)
      rw [spelling, List.cons_append, List.append_assoc, readValue_list (by omega),
        readItems_first hvalue, readItems_spelling hitems (by omega) (by omega)]
      rfl

/-! ### Objects -/

/-- One member after the first: its key, its colon and its value. -/
theorem readMembers_member {key : String} {first : Bool} {s t : Octets} (acc : Members)
    (hkey : nextKey first s = .ok (some (quotedTail key ++ 0x3A :: t)))
    (hlength : (quotedTail key).length ≤ fuel) (hvalue : readValue fuel depth t = .ok (j, rest)) :
    readMembers (fuel + 1) depth first acc s =
      readMembers fuel depth false (insertMember key j acc) rest := by
  have hcolon : readColon (0x3A :: t) = .ok t := rfl
  rw [readMembers, hkey]
  dsimp only
  rw [readString_quotedTail key hlength]
  dsimp only
  rw [hcolon]
  dsimp only
  rw [hvalue]

/-- Members in a row are read, and put in order, when the value of each of them is read. The order
in the text does not matter for what comes of it. -/
theorem readMembers_spelling {members : Members}
    (h : ∀ m ∈ members, ReadAs levels (spelling m.2) m.2)
    (hfuel : 2 * (spellingMembers members).length ≤ fuel) (hdepth : levels < depth)
    (acc : Members) (rest : Octets) :
    readMembers fuel depth false acc (spellingMembers members ++ rest) =
      .ok (.object (members.foldl (fun o (k, v) => insertMember k v o) acc), rest) := by
  induction members generalizing fuel acc with
  | nil =>
      obtain ⟨fuel, rfl⟩ : ∃ n, fuel = n + 1 := Nat.exists_eq_add_one.mpr (by
        simp only [spellingMembers, List.length_singleton] at hfuel
        omega)
      rfl
  | cons m members ih =>
      obtain ⟨key, j⟩ := m
      obtain ⟨hj, hmembers⟩ := List.forall_mem_cons.mp h
      simp only [spellingMembers, List.length_cons, List.length_append] at hfuel
      obtain ⟨fuel, rfl⟩ : ∃ n, fuel = n + 1 := Nat.exists_eq_add_of_le' (by omega)
      have hvalue : readValue fuel depth (spelling j ++ (spellingMembers members ++ rest)) =
          .ok (j, spellingMembers members ++ rest) :=
        hj (by dsimp only; omega) hdepth (delimited_members members rest)
      rw [spellingMembers, List.cons_append, List.cons_append, List.append_assoc, List.cons_append,
        List.append_assoc, readMembers_member acc rfl (by omega) hvalue, ih hmembers (by omega)]
      rfl

theorem length_spellingMembers_pos (members : Members) : 0 < (spellingMembers members).length := by
  cases members with
  | nil => exact Nat.one_pos
  | cons m members => exact Nat.succ_pos _

theorem readValue_object (hdepth : 1 < depth) (s : Octets) :
    readValue (fuel + 1) depth (0x7B :: s) = readMembers fuel (depth - 1) true [] s := by
  have hblank : skipBlanks (0x7B :: s) = 0x7B :: s := rfl
  have hopen : readValue (fuel + 1) depth (0x7B :: s) =
      if depth ≤ 1 then .error (.next .tooDeep (0x7B :: s))
      else readMembers fuel (depth - 1) true [] s := by
    rw [readValue, hblank]
    rfl
  rw [hopen, if_neg (Nat.not_le.mpr hdepth)]

/-- An object is read, and put in order, when the values of its members are read. -/
theorem readAs_object {members : Members}
    (h : ∀ m ∈ members, ReadAs levels (spelling m.2) m.2) :
    ReadAs (levels + 1) (spelling (.object members)) (.ofMembers members) := by
  intro fuel depth rest hfuel hdepth _
  cases members with
  | nil =>
      obtain ⟨fuel, rfl⟩ : ∃ n, fuel = n + 2 := Nat.exists_eq_add_of_le' (by
        simp only [spelling, List.length_cons] at hfuel
        omega)
      rw [spelling, List.cons_append, readValue_object (by omega)]
      rfl
  | cons m members =>
      obtain ⟨key, j⟩ := m
      obtain ⟨hj, hmembers⟩ := List.forall_mem_cons.mp h
      have hpos := length_spellingMembers_pos members
      simp only [spelling, List.length_cons, List.length_append] at hfuel
      obtain ⟨fuel, rfl⟩ : ∃ n, fuel = n + 2 := Nat.exists_eq_add_of_le' (by omega)
      have hvalue : readValue fuel (depth - 1)
          (spelling j ++ (spellingMembers members ++ rest)) =
            .ok (j, spellingMembers members ++ rest) :=
        hj (by dsimp only; omega) (by omega) (delimited_members members rest)
      rw [spelling, List.cons_append, List.cons_append, List.append_assoc, List.cons_append,
        List.append_assoc, readValue_object (by omega), readMembers_member [] rfl (by omega) hvalue,
        readMembers_spelling hmembers (by omega) (by omega)]
      rfl

/-! ### All values -/

theorem readAs_scalar (h : ∀ fuel depth {rest}, Delimited rest →
    readValue (fuel + 1) depth (text ++ rest) = .ok (j, rest)) : ReadAs 0 text j := by
  intro fuel depth rest hfuel _ hrest
  have hne : text ≠ [] := by
    rintro rfl
    cases h 0 0 delimited_nil
  have hpos := List.length_pos_iff.mpr hne
  obtain ⟨fuel, rfl⟩ : ∃ n, fuel = n + 1 := Nat.exists_eq_add_of_le' (by omega)
  exact h fuel depth hrest

theorem readAs_string (s : String) : ReadAs 0 (spelling (.string s)) (.string s) := by
  intro fuel depth rest hfuel _ _
  rw [spelling, List.length_cons] at hfuel
  obtain ⟨fuel, rfl⟩ : ∃ n, fuel = n + 1 := Nat.exists_eq_add_of_le' (by omega)
  rw [spelling, List.cons_append]
  show (readString fuel (quotedTail s ++ rest)).bind _ = _
  rw [readString_quotedTail s (by omega)]
  rfl

mutual

/-- The text of a value is read as the value. By recursion over the value with its items and
members; only here is it used that objects are in order. -/
theorem readAs_spelling : (j : Json) → j.Ordered → j.Integral → ReadAs j.nesting (spelling j) j
  | .null, _, _ => readAs_scalar fun _ _ _ _ => rfl
  | .bool true, _, _ => readAs_scalar fun _ _ _ _ => rfl
  | .bool false, _, _ => readAs_scalar fun _ _ _ _ => rfl
  | .number (.integer i), _, _ => readAs_scalar fun fuel depth _ => readValue_integer i fuel depth
  | .string s, _, _ => readAs_string s
  | .array items, hordered, hintegral => readAs_array (readAs_items items hordered hintegral)
  | .object members, hordered, hintegral => by
    -- The reader puts the members in order, which they are in already.
    have h := readAs_object (readAs_members members hordered.2 hintegral)
    rwa [ofMembers, sortMembers_of_sorted hordered.1] at h

theorem readAs_items : (items : List Json) → OrderedItems items → IntegralItems items →
    ∀ j ∈ items, ReadAs (nestingItems items) (spelling j) j
  | [], _, _ => nofun
  | j :: rest, hordered, hintegral => by
    refine List.forall_mem_cons.mpr ⟨?_, fun i hi => ?_⟩
    · exact (readAs_spelling j hordered.1 hintegral.1).mono (Nat.le_max_left _ _)
    · exact (readAs_items rest hordered.2 hintegral.2 i hi).mono (Nat.le_max_right _ _)

theorem readAs_members : (members : Members) → OrderedMembers members → IntegralMembers members →
    ∀ m ∈ members, ReadAs (nestingMembers members) (spelling m.2) m.2
  | [], _, _ => nofun
  | (_, j) :: rest, hordered, hintegral => by
    refine List.forall_mem_cons.mpr ⟨?_, fun m hm => ?_⟩
    · exact (readAs_spelling j hordered.1 hintegral.1).mono (Nat.le_max_left _ _)
    · exact (readAs_members rest hordered.2 hintegral.2 m hm).mono (Nat.le_max_right _ _)

end

/-! ### Whole texts -/

theorem parse_of_readAs (h : ReadAs levels text j) (hlevels : levels < maxDepth) :
    parse text = .ok j := by
  have hread : readValue (fuelFor text) maxDepth (text ++ []) = .ok (j, []) :=
    h (by unfold fuelFor; omega) hlevels delimited_nil
  rw [List.append_nil] at hread
  unfold parse
  rw [hread]
  rfl

/-- **A printed value is read back.** The levels are those of a text that begins with no container
around it. -/
theorem parse_render (hordered : j.Ordered) (hintegral : j.Integral)
    (hnesting : j.nesting < maxDepth) : parse (Utf8.encode j.render) = .ok j := by
  rw [encode_render]
  exact parse_of_readAs (readAs_spelling j hordered hintegral) hnesting

end Switchyard.Json
