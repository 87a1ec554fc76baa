import Switchyard.Json.Decoder
import Switchyard.Proofs.Json.ReadBack

/-!
# Switchyard.Proofs.Json.Decoder

**Records are read from the texts of objects.** What `Proofs.Json.ReadBack` says of free values is
said here of typed readers, one after the other.

* `Decoder.Reads` — a text is read as a value of the type, whatever delimiter comes behind it. Free
  values are the case `Decoder.any`, and so `ReadAs` is `any.Reads`.
* `Record.Fills` — the members of an object, each read by its field, make a record of another one.
  It has one rule for each way in which `Record.readMembers` goes on, so that `Fills.readMembers` is
  an induction over it.
* `reads_textual`, `reads_choice`, `reads_option`, `reads_list`, `reads_record` — one lemma for each
  reader.

A typed reader is used for texts that the gateway itself writes, so a lemma about it begins with a
value that has been printed and ends with what is read from its spelling. The levels of nesting and
the fuel are treated as for free values. What is new is the order of tests at the beginning of a
text: a reader of optional values looks for `null` and a reader of lists for a closing bracket
before either reads anything, which is why `spelling_head` is about the first byte.
-/

namespace Switchyard.Json

variable {α β : Type} {levels fuel depth : Nat} {text rest : Octets}

/-! ### How texts begin -/

theorem ne_of_isDigit {b c : UInt8} (hb : isDigit b = true) (hc : isDigit c = false) : b ≠ c := by
  rintro rfl
  rw [hb] at hc
  exact absurd hc (by decide)

theorem numeral_head (i : Integer) :
    ∃ b s, numeral (.integer i) = b :: s ∧ (b = 0x2D ∨ isDigit b = true) := by
  by_cases hneg : i.val < 0
  · have hval : i.val = -((i.val.natAbs - 1 + 1 : Nat) : Int) := by omega
    exact ⟨0x2D, _, numeral_negative hval, .inl rfl⟩
  · have hval : i.val = (i.val.natAbs : Int) := by omega
    obtain ⟨b, s, hdigits, hb⟩ := digits_eq_cons i.val.natAbs
    exact ⟨b, s, (numeral_natural hval).trans hdigits, .inr hb⟩

/-- The text of a value begins with no blank, not with the bracket that ends a list, and with the
first letter of `null` for that value alone. So one byte decides whether there is a value, an item,
or nothing. -/
theorem spelling_head : (j : Json) → j.Integral →
    ∃ b s, spelling j = b :: s ∧ isBlank b = false ∧ b ≠ 0x5D ∧ (b = 0x6E → j = .null)
  | .null, _ => ⟨0x6E, _, rfl, rfl, by decide, fun _ => rfl⟩
  | .bool true, _ => ⟨0x74, _, rfl, rfl, by decide, fun h => absurd h (by decide)⟩
  | .bool false, _ => ⟨0x66, _, rfl, rfl, by decide, fun h => absurd h (by decide)⟩
  | .string _, _ => ⟨0x22, _, rfl, rfl, by decide, fun h => absurd h (by decide)⟩
  | .array [], _ => ⟨0x5B, _, rfl, rfl, by decide, fun h => absurd h (by decide)⟩
  | .array (_ :: _), _ => ⟨0x5B, _, rfl, rfl, by decide, fun h => absurd h (by decide)⟩
  | .object [], _ => ⟨0x7B, _, rfl, rfl, by decide, fun h => absurd h (by decide)⟩
  | .object (_ :: _), _ => ⟨0x7B, _, rfl, rfl, by decide, fun h => absurd h (by decide)⟩
  | .number (.integer i), _ => by
    obtain ⟨b, s, hnumeral, rfl | hdigit⟩ := numeral_head i
    · exact ⟨0x2D, s, hnumeral, rfl, by decide, fun h => absurd h (by decide)⟩
    · refine ⟨b, s, hnumeral, ?_, ne_of_isDigit hdigit rfl,
        fun h => absurd h (ne_of_isDigit hdigit rfl)⟩
      unfold isBlank
      simp [ne_of_isDigit hdigit (c := 0x20) rfl, ne_of_isDigit hdigit (c := 0x0A) rfl,
        ne_of_isDigit hdigit (c := 0x09) rfl, ne_of_isDigit hdigit (c := 0x0D) rfl]

namespace Decoder

/-- The text is read as `a` by a reader that may open that many containers. Behind the text there
may be anything that begins with a delimiter, or nothing. -/
def Reads (d : Decoder α) (levels : Nat) (text : Octets) (a : α) : Prop :=
  ∀ ⦃fuel depth : Nat⦄ ⦃rest : Octets⦄, 2 * text.length ≤ fuel → levels < depth →
    Delimited rest → d.text fuel depth (text ++ rest) = .ok (a, rest)

/-- A field as a reader of what it puts into a record. With it a field can be treated as any other
reader. -/
def Field.setter (f : Field α) : Decoder (α → α) :=
  ⟨f.text, f.value⟩

theorem Reads.mono {d : Decoder α} {a : α} {more : Nat} (h : d.Reads levels text a)
    (hle : levels ≤ more) : d.Reads more text a :=
  fun _ _ _ hfuel hdepth hrest => h hfuel (Nat.lt_of_le_of_lt hle hdepth) hrest

theorem Reads.field {d : Decoder β} {b : β} (h : d.Reads levels text b) (name : String)
    (required : Bool) (set : β → α → α) :
    (Field.of name required d set).setter.Reads levels text (set b) := by
  intro fuel depth rest hfuel hdepth hrest
  show (d.text fuel depth (text ++ rest)).bind _ = _
  rw [h hfuel hdepth hrest]
  rfl

/-! ### Scalars -/

/-- A string is read where the reader takes it. What a reader does with a string is a function of
the string alone. -/
theorem reads_textual (expected : String) {s : String} {accept : String → Except Cause α} {a : α}
    (h : accept s = .ok a) : (textual expected accept).Reads 0 (spelling (.string s)) a := by
  intro fuel depth rest hfuel _ _
  rw [spelling, List.length_cons] at hfuel
  rw [spelling, List.cons_append]
  show (readString fuel (quotedTail s ++ rest)).bind _ = _
  rw [readString_quotedTail s (by omega)]
  simp only [Except.bind, h]
  rfl

theorem reads_string (s : String) : string.Reads 0 (spelling (.string s)) s :=
  reads_textual _ rfl

/-- A name is read as what it stands for. -/
theorem reads_choice {known : List (String × α)} {name : String} {a : α}
    (h : pick known name = .ok a) : (choice known).Reads 0 (spelling (.string name)) a :=
  reads_textual "variant identifier" h

/-! ### Absent values -/

/-- A value is there if it is not `null`. -/
def unlessNull : Json → Option Json
  | .null => none
  | j => some j

theorem unlessNull_of_ne {j : Json} (h : j ≠ .null) : unlessNull j = some j := by
  cases j with
  | null => exact absurd rfl h
  | _ => rfl

/-- Where the text is not that of `null`, the value is there and is read as by the reader of present
values. -/
theorem reads_option {d : Decoder α} {j : Json} {a : α} (hintegral : j.Integral) (hne : j ≠ .null)
    (h : d.Reads levels (spelling j) a) : (option d).Reads levels (spelling j) (some a) := by
  obtain ⟨b, s, hspelling, hblank, -, hword⟩ := spelling_head j hintegral
  intro fuel depth rest hfuel hdepth hrest
  have hskip : skipBlanks (spelling j ++ rest) = spelling j ++ rest := by
    rw [hspelling, List.cons_append, skipBlanks, hblank, if_neg Bool.false_ne_true]
  unfold option
  dsimp only
  rw [hskip]
  split
  · rename_i t ht
    rw [hspelling, List.cons_append] at ht
    exact absurd (hword (List.cons.inj ht).1) hne
  · show (d.text fuel depth (spelling j ++ rest)).bind _ = _
    rw [h hfuel hdepth hrest]
    rfl

/-- A free value is read as itself, and `null` as nothing. -/
theorem reads_option_any {j : Json} (hordered : j.Ordered) (hintegral : j.Integral) :
    (option any).Reads j.nesting (spelling j) (unlessNull j) := by
  by_cases hnull : j = .null
  · subst hnull
    exact fun _ _ _ _ _ _ => rfl
  · rw [unlessNull_of_ne hnull]
    exact reads_option hintegral hnull (readAs_spelling j hordered hintegral)

/-! ### Lists -/

theorem nextItem_of_head {b : UInt8} {s t : Octets} (hs : s = b :: t) (hblank : isBlank b = false)
    (hend : b ≠ 0x5D) :
    nextItem true s = .ok (some s) ∧ nextItem false (0x2C :: s) = .ok (some s) := by
  subst hs
  have hskip : skipBlanks (b :: t) = b :: t := by
    rw [skipBlanks, hblank, if_neg Bool.false_ne_true]
  have hcomma : skipBlanks (0x2C :: b :: t) = 0x2C :: b :: t := rfl
  constructor
  · rw [nextItem, hskip]
    dsimp only
    rw [if_neg hend, if_pos rfl]
  · rw [nextItem, hcomma]
    dsimp only
    rw [if_neg (by decide), if_neg Bool.false_ne_true, if_pos rfl, hskip]
    dsimp only
    rw [if_neg hend]

/-- One item of a list. -/
theorem readList_item {d : Decoder α} (acc : List α) {a : α} {s t : Octets}
    (hitem : nextItem acc.isEmpty s = .ok (some t)) (hread : d.text fuel depth t = .ok (a, rest)) :
    readList d (fuel + 1) depth acc s = readList d fuel depth (a :: acc) rest := by
  rw [readList, hitem]
  dsimp only
  rw [hread]

/-- Items in a row are read when each of them is. By induction on the items, with those that have
been read in the other order. -/
theorem readList_spelling {d : Decoder α} {items : List Json} {as : List α}
    (h : List.Forall₂ (fun j a => j.Integral ∧ d.Reads levels (spelling j) a) items as)
    (hfuel : 2 * (spellingItems items).length ≤ fuel) (hdepth : levels < depth) (a : α)
    (acc : List α) (rest : Octets) :
    readList d fuel depth (a :: acc) (spellingItems items ++ rest) =
      .ok ((a :: acc).reverse ++ as, 0x5D :: rest) := by
  induction h generalizing fuel a acc with
  | nil =>
      obtain ⟨fuel, rfl⟩ : ∃ n, fuel = n + 1 := Nat.exists_eq_add_one.mpr (by
        simp only [spellingItems, List.length_singleton] at hfuel
        omega)
      rw [List.append_nil]
      rfl
  | @cons j b items as hj hitems ih =>
      obtain ⟨hintegral, hread⟩ := hj
      obtain ⟨c, t, hspelling, hblank, hend, -⟩ := spelling_head j hintegral
      simp only [spellingItems, List.length_cons, List.length_append] at hfuel
      obtain ⟨fuel, rfl⟩ : ∃ n, fuel = n + 1 := Nat.exists_eq_add_of_le' (by omega)
      have hnext := (nextItem_of_head (s := spelling j ++ (spellingItems items ++ rest))
        (by rw [hspelling, List.cons_append]) hblank hend).2
      have hvalue : d.text fuel depth (spelling j ++ (spellingItems items ++ rest)) =
          .ok (b, spellingItems items ++ rest) :=
        hread (by omega) hdepth (delimited_items items rest)
      rw [spellingItems, List.cons_append, List.append_assoc, readList_item (a :: acc) hnext hvalue,
        ih (by omega), List.reverse_cons, List.append_assoc, List.singleton_append]

/-- A list is read when its items are, with one level of nesting more. The first item is told apart
because there is no comma in front of it. -/
theorem reads_list {d : Decoder α} {items : List Json} {as : List α}
    (h : List.Forall₂ (fun j a => j.Integral ∧ d.Reads levels (spelling j) a) items as) :
    (list d).Reads (levels + 1) (spelling (.array items)) as := by
  intro fuel depth rest hfuel hdepth _
  have hopen (s : Octets) :
      (list d).text fuel depth (0x5B :: s) =
        if depth ≤ 1 then .error (.next .tooDeep (0x5B :: s))
        else close closeList (readList d fuel (depth - 1) [] s) := rfl
  cases h with
  | nil =>
      obtain ⟨fuel, rfl⟩ : ∃ n, fuel = n + 1 := Nat.exists_eq_add_of_le' (by
        simp only [spelling, List.length_cons] at hfuel
        omega)
      rw [spelling, List.cons_append, hopen, if_neg (by omega)]
      rfl
  | @cons j a items as hj hitems =>
      obtain ⟨hintegral, hread⟩ := hj
      obtain ⟨c, t, hspelling, hblank, hend, -⟩ := spelling_head j hintegral
      simp only [spelling, List.length_cons, List.length_append] at hfuel
      obtain ⟨fuel, rfl⟩ : ∃ n, fuel = n + 1 := Nat.exists_eq_add_of_le' (by omega)
      have hnext := (nextItem_of_head (s := spelling j ++ (spellingItems items ++ rest))
        (by rw [hspelling, List.cons_append]) hblank hend).1
      have hvalue : d.text fuel (depth - 1) (spelling j ++ (spellingItems items ++ rest)) =
          .ok (a, spellingItems items ++ rest) :=
        hread (by omega) (by omega) (delimited_items items rest)
      rw [spelling, List.cons_append, List.append_assoc, hopen, if_neg (by omega),
        readList_item [] hnext hvalue, readList_spelling hitems (by omega) (by omega)]
      rfl

/-! ### Records -/

/-- The members, each read by its field, make `b` of the record `a` in which the fields of `seen`
have been filled. No field is filled twice, and at the end none is missing that has to be there. -/
inductive Record.Fills (r : Record α) (levels : Nat) : List String → α → Members → α → Prop
  | done {seen : List String} {a : α} (h : r.missing? seen = none) : Fills r levels seen a [] a
  | member {seen : List String} {a b : α} {key : String} {j : Json} {members : Members}
      {field : Field α} {set : α → α} (hfield : r.fields.find? (·.name = key) = some field)
      (hseen : seen.contains key = false) (hread : field.setter.Reads levels (spelling j) set)
      (hrest : Fills r levels (key :: seen) (set a) members b) :
      Fills r levels seen a ((key, j) :: members) b

/-- One member with a field for it. -/
theorem Record.readMembers_member {r : Record α} {field : Field α} {key : String} {first : Bool}
    {seen : List String} {set : α → α} {s t : Octets} (a : α)
    (hkey : nextKey first s = .ok (some (quotedTail key ++ 0x3A :: t)))
    (hlength : (quotedTail key).length ≤ fuel)
    (hfield : r.fields.find? (·.name = key) = some field) (hseen : seen.contains key = false)
    (hread : field.text fuel depth t = .ok (set, rest)) :
    r.readMembers (fuel + 1) depth first seen a s =
      r.readMembers fuel depth false (key :: seen) (set a) rest := by
  have hcolon : readColon (0x3A :: t) = .ok t := rfl
  rw [readMembers, hkey]
  dsimp only
  rw [readString_quotedTail key hlength]
  dsimp only
  rw [hfield]
  dsimp only
  rw [hseen, if_neg Bool.false_ne_true, hcolon]
  dsimp only
  rw [hread]

/-- Members in a row fill a record, by induction on the rule that filled it. -/
theorem Record.Fills.readMembers {r : Record α} {seen : List String} {a b : α} {members : Members}
    (h : r.Fills levels seen a members b) (hfuel : 2 * (spellingMembers members).length ≤ fuel)
    (hdepth : levels < depth) (rest : Octets) :
    r.readMembers fuel depth false seen a (spellingMembers members ++ rest) =
      .ok (b, 0x7D :: rest) := by
  induction h generalizing fuel with
  | done hmissing =>
      obtain ⟨fuel, rfl⟩ : ∃ n, fuel = n + 1 := Nat.exists_eq_add_one.mpr (by
        simp only [spellingMembers, List.length_singleton] at hfuel
        omega)
      have hnext : nextKey false (spellingMembers [] ++ rest) = .ok none := rfl
      rw [Record.readMembers, hnext]
      dsimp only
      rw [hmissing]
      rfl
  | @member seen a b key j members field set hfield hseen hread _ ih =>
      simp only [spellingMembers, List.length_cons, List.length_append] at hfuel
      obtain ⟨fuel, rfl⟩ : ∃ n, fuel = n + 1 := Nat.exists_eq_add_of_le' (by omega)
      have hvalue : field.text fuel depth (spelling j ++ (spellingMembers members ++ rest)) =
          .ok (set, spellingMembers members ++ rest) :=
        hread (by omega) hdepth (delimited_members members rest)
      rw [spellingMembers, List.cons_append, List.cons_append, List.append_assoc, List.cons_append,
        List.append_assoc, Record.readMembers_member a rfl (by omega) hfield hseen hvalue,
        ih (by omega)]

/-- A record is read from the text of an object whose members fill it, from the record in which
nothing has been filled. -/
theorem reads_record {r : Record α} {members : Members} {a : α}
    (h : r.Fills levels [] r.start members a) :
    (record r).Reads (levels + 1) (spelling (.object members)) a := by
  intro fuel depth rest hfuel hdepth _
  have hopen (s : Octets) :
      (record r).text fuel depth (0x7B :: s) =
        if depth ≤ 1 then .error (.next .tooDeep (0x7B :: s))
        else close closeObject (r.readMembers fuel (depth - 1) true [] r.start s) := rfl
  cases h with
  | done hmissing =>
      obtain ⟨fuel, rfl⟩ : ∃ n, fuel = n + 1 := Nat.exists_eq_add_of_le' (by
        simp only [spelling, List.length_cons] at hfuel
        omega)
      have hnext : nextKey true (0x7D :: rest) = .ok none := rfl
      rw [spelling, List.cons_append, hopen, if_neg (by omega), List.cons_append, List.nil_append,
        Record.readMembers, hnext]
      dsimp only
      rw [hmissing]
      rfl
  | @member _ _ _ key j members field set hfield hseen hread hrest =>
      simp only [spelling, List.length_cons, List.length_append] at hfuel
      obtain ⟨fuel, rfl⟩ : ∃ n, fuel = n + 1 := Nat.exists_eq_add_of_le' (by omega)
      have hvalue : field.text fuel (depth - 1)
          (spelling j ++ (spellingMembers members ++ rest)) =
            .ok (set, spellingMembers members ++ rest) :=
        hread (by omega) (by omega) (delimited_members members rest)
      rw [spelling, List.cons_append, List.cons_append, List.append_assoc, List.cons_append,
        List.append_assoc, hopen, if_neg (by omega),
        Record.readMembers_member _ rfl (by omega) hfield hseen hvalue,
        hrest.readMembers (by omega) (by omega)]
      rfl

/-! ### Whole texts -/

theorem parse_of_reads {d : Decoder α} {a : α} (h : d.Reads levels text a)
    (hlevels : levels < maxDepth) : d.parse text = .ok a := by
  have hread : d.text (fuelFor text) maxDepth (text ++ []) = .ok (a, []) :=
    h (by unfold fuelFor; omega) hlevels delimited_nil
  rw [List.append_nil] at hread
  unfold parse
  rw [hread]
  rfl

end Decoder
end Switchyard.Json
