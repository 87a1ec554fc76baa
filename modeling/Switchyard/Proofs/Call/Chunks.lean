import Switchyard.Call.Chunks
import Switchyard.Proofs.Text.Utf8

/-!
# Switchyard.Proofs.Call.Chunks

**Cutting loses nothing.** The pieces of a text join to the text (`join_splitChunks`), whatever the
limit is. A limit that leaves room for any character is kept by every piece
(`size_le_of_mem_splitChunks`), and then no piece of a text that is not empty is empty
(`ne_empty_of_mem_splitChunks`).

**Each piece is the longest that is allowed** (`pieces_longest`), also under a limit that some or
all characters are longer than. `longest_cut` says so of one piece: what stops it is a character
that does not fit any more (`bytes_lt_of_takeFitting`).

The pieces are made by a loop that keeps the size of what is left, so most of what is said here
holds while that size is that of the characters (`hsize`). What a single piece keeps and what it
leaves is known from `takeFitting`, the loop over characters: both lists together are what there
was, and the loop stops at the first character without room. `fun_induction` on `pieces` then goes
through the pieces.
-/

namespace Switchyard.Call

/-- The bytes of characters. A text has as many as its characters together (`size_eq_bytes`). -/
def bytes (cs : List Char) : Nat :=
  (cs.map Char.utf8Size).sum

@[simp] theorem bytes_nil : bytes [] = 0 := rfl

@[simp] theorem bytes_cons (c : Char) (cs : List Char) :
    bytes (c :: cs) = c.utf8Size + bytes cs := rfl

@[simp] theorem bytes_append (cs ds : List Char) : bytes (cs ++ ds) = bytes cs + bytes ds := by
  simp [bytes]

@[simp] theorem bytes_reverse (cs : List Char) : bytes cs.reverse = bytes cs := by
  induction cs with
  | nil => rfl
  | cons c cs ih =>
      rw [List.reverse_cons, bytes_append, ih, bytes_cons, bytes_cons, bytes_nil]
      omega

theorem size_ofList (cs : List Char) : (String.ofList cs).utf8ByteSize = bytes cs :=
  Utf8.utf8ByteSize_ofList cs

theorem size_eq_bytes (s : String) : s.utf8ByteSize = bytes s.toList := by
  rw [← size_ofList, String.ofList_toList]

theorem bytes_pos {cs : List Char} (h : cs ≠ []) : 0 < bytes cs := by
  cases cs with
  | nil => exact absurd rfl h
  | cons c cs =>
      have hc := c.utf8Size_pos
      rw [bytes_cons]
      omega

/-! ### One piece -/

/-- What is moved and what is left make up what there was. The moved characters are held the other
way round. -/
theorem takeFitting_append (room : Nat) (acc cs : List Char) :
    (takeFitting room acc cs).1.reverse ++ (takeFitting room acc cs).2 = acc.reverse ++ cs := by
  induction cs generalizing room acc with
  | nil => rfl
  | cons c cs ih =>
      unfold takeFitting
      split
      · rw [ih]
        simp
      · rfl

/-- What is moved fits the room, counted without what was there before. -/
theorem bytes_takeFitting_le (room : Nat) (acc cs : List Char) :
    bytes (takeFitting room acc cs).1 ≤ bytes acc + room := by
  induction cs generalizing room acc with
  | nil => exact Nat.le_add_right _ _
  | cons c cs ih =>
      unfold takeFitting
      split
      · rename_i hfits
        have hle := ih (room - c.utf8Size) (c :: acc)
        rw [bytes_cons] at hle
        omega
      · exact Nat.le_add_right _ _

theorem cut_append (limit : Nat) (c : Char) (cs : List Char) :
    (cut limit c cs).1.reverse ++ (cut limit c cs).2 = c :: cs :=
  takeFitting_append _ _ _

theorem size_cut (limit : Nat) (c : Char) (cs : List Char) :
    (String.ofList (cut limit c cs).1.reverse).utf8ByteSize = bytes (cut limit c cs).1 := by
  rw [size_ofList, bytes_reverse]

/-- What is left has the bytes that the piece has not. -/
theorem bytes_cut_add (limit : Nat) (c : Char) (cs : List Char) :
    bytes (cut limit c cs).1 + bytes (cut limit c cs).2 = bytes (c :: cs) := by
  have hsum := congrArg bytes (cut_append limit c cs)
  rwa [bytes_append, bytes_reverse] at hsum

theorem bytes_cut_le {limit : Nat} (h : 4 ≤ limit) (c : Char) (cs : List Char) :
    bytes (cut limit c cs).1 ≤ limit := by
  have hle : bytes (cut limit c cs).1 ≤ bytes [c] + (limit - c.utf8Size) :=
    bytes_takeFitting_le _ _ _
  have hc := c.utf8Size_le_four
  rw [bytes_cons, bytes_nil] at hle
  omega

/-- A piece has at least the character that it begins with. -/
theorem cut_ne_nil (limit : Nat) (c : Char) (cs : List Char) : (cut limit c cs).1 ≠ [] := by
  have hmem (room : Nat) (acc cs : List Char) (h : acc ≠ []) :
      (takeFitting room acc cs).1 ≠ [] := by
    induction cs generalizing room acc with
    | nil => exact h
    | cons d cs ih =>
        unfold takeFitting
        split
        · exact ih _ _ (List.cons_ne_nil _ _)
        · exact h
  exact hmem _ _ _ (List.cons_ne_nil _ _)

/-! ### All pieces -/

theorem join_pieces (limit size : Nat) (cs : List Char) :
    String.join (pieces limit size cs) = String.ofList cs := by
  fun_induction pieces limit size cs with
  | case1 size => rfl
  | case2 size c rest h => exact String.empty_append
  | case3 size c rest h piece ih =>
      rw [String.join_cons, ih, ← String.ofList_append, cut_append]

/-- While the size that is kept is that of the characters, no piece is too long. The limit has room
for any character, of which none has more than four bytes. -/
theorem bytes_le_of_mem_pieces {limit size : Nat} {cs : List Char} (hlimit : 4 ≤ limit)
    (hsize : bytes cs = size) : ∀ p ∈ pieces limit size cs, p.utf8ByteSize ≤ limit := by
  fun_induction pieces limit size cs with
  | case1 size => simp
  | case2 size c rest h =>
      intro p hp
      rw [List.mem_singleton.mp hp, size_ofList, hsize]
      exact h
  | case3 size c rest h piece ih =>
      have hpiece : piece.utf8ByteSize = bytes (cut limit c rest).1 := size_cut limit c rest
      have hsum := bytes_cut_add limit c rest
      intro p hp
      rcases List.mem_cons.mp hp with rfl | hp
      · rw [hpiece]
        exact bytes_cut_le hlimit c rest
      · exact ih (by omega) p hp

/-- A piece is empty only if there is nothing to cut. -/
theorem ne_empty_of_mem_pieces {limit size : Nat} {cs : List Char} (hlimit : 4 ≤ limit)
    (hsize : bytes cs = size) (hcs : cs ≠ []) : ∀ p ∈ pieces limit size cs, p ≠ "" := by
  fun_induction pieces limit size cs with
  | case1 size => exact absurd rfl hcs
  | case2 size c rest h =>
      intro p hp
      rw [List.mem_singleton.mp hp]
      simp
  | case3 size c rest h piece ih =>
      have hpiece : piece.utf8ByteSize = bytes (cut limit c rest).1 := size_cut limit c rest
      have hsum := bytes_cut_add limit c rest
      -- The piece fits the limit and the text does not, so that something is left.
      have hfits := bytes_cut_le hlimit c rest
      have hrest : (cut limit c rest).2 ≠ [] := by
        intro hnil
        rw [hnil, bytes_nil] at hsum
        omega
      intro p hp
      rcases List.mem_cons.mp hp with rfl | hp
      · intro hempty
        have hpos := bytes_pos (cut_ne_nil limit c rest)
        rw [hempty] at hpiece
        have hzero : "".utf8ByteSize = 0 := rfl
        omega
      · exact ih (by omega) hrest p hp

/-! ### Texts -/

/-- The pieces of a text, one after another, are the text. -/
theorem join_splitChunks (text : String) (limit : Nat) :
    String.join (splitChunks text limit) = text := by
  unfold splitChunks
  rw [join_pieces, String.ofList_toList]

theorem size_le_of_mem_splitChunks {text p : String} {limit : Nat} (hlimit : 4 ≤ limit)
    (hp : p ∈ splitChunks text limit) : p.utf8ByteSize ≤ limit :=
  bytes_le_of_mem_pieces hlimit (size_eq_bytes text).symm p hp

theorem ne_empty_of_mem_splitChunks {text p : String} {limit : Nat} (hlimit : 4 ≤ limit)
    (htext : text ≠ "") (hp : p ∈ splitChunks text limit) : p ≠ "" := by
  have hcs : text.toList ≠ [] := by simpa using htext
  exact ne_empty_of_mem_pieces hlimit (size_eq_bytes text).symm hcs p hp

/-- There is always a piece. -/
theorem splitChunks_ne_nil (text : String) (limit : Nat) : splitChunks text limit ≠ [] := by
  unfold splitChunks
  fun_cases pieces limit text.utf8ByteSize text.toList with simp

/-! ### The longest piece -/

/-- A piece within the limit, or one character that is longer than the limit. Without the second
one, some texts could not be cut at all. -/
def Allowed (limit : Nat) (p : String) : Prop :=
  p.utf8ByteSize ≤ limit ∨ ∃ c, p = String.singleton c ∧ limit < c.utf8Size

/-- Of all allowed pieces in front of a text, `p` is the longest, and `rest` is what is behind it.
The last field says why: not even one more character would have fit. -/
structure Longest (limit : Nat) (p rest : String) : Prop where
  ne_empty : p ≠ ""
  allowed : Allowed limit p
  longest : ∀ q tail, p ++ rest = q ++ tail → Allowed limit q → q.utf8ByteSize ≤ p.utf8ByteSize
  full : ∀ c tail, rest = String.singleton c ++ tail → limit < p.utf8ByteSize + c.utf8Size

/-- The character at which moving stops does not fit the room. By induction over the characters,
with the room and what was moved arbitrary. -/
theorem bytes_lt_of_takeFitting {room : Nat} {acc cs tail : List Char} {c : Char}
    (h : (takeFitting room acc cs).2 = c :: tail) :
    bytes acc + room < bytes (takeFitting room acc cs).1 + c.utf8Size := by
  induction cs generalizing room acc with
  | nil => simp [takeFitting] at h
  | cons d cs ih =>
      unfold takeFitting at h ⊢
      split at h
      · rename_i hfits
        have hlt := ih h
        rw [bytes_cons] at hlt
        rw [if_pos hfits]
        omega
      · rename_i hfits
        cases h
        rw [if_neg hfits]
        dsimp only
        omega

/-- A first character that uses up the limit is a piece of its own. -/
theorem takeFitting_zero (acc cs : List Char) : takeFitting 0 acc cs = (acc, cs) := by
  cases cs with
  | nil => rfl
  | cons c cs =>
      have hc := c.utf8Size_pos
      rw [takeFitting, if_neg (by omega)]

theorem allowed_cut (limit : Nat) (c : Char) (cs : List Char) :
    Allowed limit (String.ofList (cut limit c cs).1.reverse) := by
  by_cases hc : c.utf8Size ≤ limit
  · left
    have hle : bytes (cut limit c cs).1 ≤ bytes [c] + (limit - c.utf8Size) :=
      bytes_takeFitting_le _ _ _
    rw [bytes_cons, bytes_nil] at hle
    rw [size_cut]
    omega
  · right
    refine ⟨c, ?_, by omega⟩
    rw [cut, Nat.sub_eq_zero_of_le (by omega), takeFitting_zero]
    rfl

theorem longest_cut (limit : Nat) (c : Char) (cs : List Char) :
    Longest limit (String.ofList (cut limit c cs).1.reverse) (String.ofList (cut limit c cs).2) := by
  have hne := cut_ne_nil limit c cs
  have hfull : ∀ d tail, (cut limit c cs).2 = d :: tail →
      limit < bytes (cut limit c cs).1 + d.utf8Size := by
    intro d tail h
    have hlt := bytes_lt_of_takeFitting h
    rw [bytes_cons, bytes_nil] at hlt
    change _ < bytes (cut limit c cs).1 + _ at hlt
    omega
  refine ⟨by simpa using hne, allowed_cut limit c cs, ?_, ?_⟩
  · intro q tail h hallowed
    have hchars : (cut limit c cs).1.reverse ++ (cut limit c cs).2 = q.toList ++ tail.toList := by
      simpa using congrArg String.toList h
    rw [size_cut, size_eq_bytes]
    rcases List.append_eq_append_iff.mp hchars with ⟨more, hq, hrest⟩ | ⟨more, hp, -⟩
    · cases more with
      | nil => simp [hq]
      | cons d more =>
          -- A longer piece has the character that did not fit, and is not that character alone.
          have hlt := hfull d _ hrest
          have hlong : limit < bytes q.toList := by
            rw [hq, bytes_append, bytes_reverse, bytes_cons]
            omega
          rcases hallowed with hle | ⟨e, rfl, -⟩
          · rw [size_eq_bytes] at hle
            omega
          · have hlength := congrArg List.length hq
            have hpos := List.length_pos_iff.mpr hne
            simp at hlength
            omega
    · have hsum := congrArg bytes hp
      rw [bytes_reverse, bytes_append] at hsum
      omega
  · intro d tail h
    have hrest : (cut limit c cs).2 = d :: tail.toList := by
      simpa using congrArg String.toList h
    rw [size_cut]
    exact hfull d _ hrest

theorem length_pieces_le (limit size : Nat) (cs : List Char) :
    (pieces limit size cs).length ≤ cs.length + 1 := by
  fun_induction pieces limit size cs with
  | case1 size => simp
  | case2 size c rest h => simp
  | case3 size c rest h piece ih =>
      have hle : (cut limit c rest).2.length ≤ rest.length := length_takeFitting_le _ _ _
      simp only [List.length_cons]
      omega

/-- Cutting ends with a piece within the limit. -/
theorem longest_of_last {limit : Nat} {before after : List String} {p q : String}
    (hq : q.utf8ByteSize ≤ limit) (h : [q] = before ++ p :: after) :
    Allowed limit p ∧ (after ≠ [] → Longest limit p (String.join after)) := by
  obtain ⟨-, hp⟩ | ⟨-, hnil⟩ := List.singleton_eq_append_iff.mp h
  · obtain ⟨rfl, rfl⟩ := List.cons.inj hp
    exact ⟨.inl hq, fun hafter => absurd rfl hafter⟩
  · cases hnil

/-- Every piece is allowed, and with another one behind it the longest. The last piece is only what
was left, and so need not be a longest one. -/
theorem longest_of_pieces {limit size : Nat} {cs : List Char} (hsize : bytes cs = size)
    {before after : List String} {p : String} (h : pieces limit size cs = before ++ p :: after) :
    Allowed limit p ∧ (after ≠ [] → Longest limit p (String.join after)) := by
  fun_induction pieces limit size cs generalizing before with
  | case1 size => exact longest_of_last (q := "") (Nat.zero_le limit) h
  | case2 size c rest hle => exact longest_of_last (by rwa [size_ofList, hsize]) h
  | case3 size c rest hlt piece ih =>
      have hpiece : piece.utf8ByteSize = bytes (cut limit c rest).1 := size_cut limit c rest
      have hsum := bytes_cut_add limit c rest
      cases before with
      | nil =>
          obtain ⟨rfl, rfl⟩ := List.cons.inj h
          have hlongest := longest_cut limit c rest
          rw [join_pieces]
          exact ⟨hlongest.allowed, fun _ => hlongest⟩
      | cons q before => exact ih (by omega) (List.cons.inj h).2

/-- Where pieces meet, a character of the text ends and the next one begins. -/
theorem isValid_of_join {text : String} {before after : List String}
    (h : String.join (before ++ after) = text) :
    (String.join before).rawEndPos.IsValid text :=
  String.Pos.Raw.isValid_iff_exists_append.mpr
    ⟨String.join before, String.join after, by rw [← h, String.join_append], rfl⟩

/-- **Each piece is the longest that is allowed.** Under any limit a text is cut into at least one
piece and at most one more than it has characters. The pieces join to the text, and each begins and
ends between two characters. Each is within the limit, or one character that is longer than it. Each
but the last is not empty, and no longer piece would have been allowed in its place. -/
theorem pieces_longest (text : String) (limit : Nat) :
    splitChunks text limit ≠ [] ∧ (splitChunks text limit).length ≤ text.length + 1 ∧
    String.join (splitChunks text limit) = text ∧
    ∀ before p after, splitChunks text limit = before ++ p :: after →
      (String.join before).rawEndPos.IsValid text ∧
      (String.join (before ++ [p])).rawEndPos.IsValid text ∧
      Allowed limit p ∧ (after ≠ [] → Longest limit p (String.join after)) := by
  have hjoin := join_splitChunks text limit
  refine ⟨splitChunks_ne_nil text limit, ?_, hjoin, ?_⟩
  · have hlength := length_pieces_le limit text.utf8ByteSize text.toList
    rwa [String.length_toList] at hlength
  · intro before p after h
    rw [h] at hjoin
    have hjoinNext : String.join ((before ++ [p]) ++ after) = text := by
      rw [List.append_assoc]
      exact hjoin
    exact ⟨isValid_of_join hjoin, isValid_of_join hjoinNext,
      longest_of_pieces (size_eq_bytes text).symm h⟩

/-- A limit of nothing cuts between all characters and leaves an empty piece. -/
example : splitChunks "aé" 0 = ["a", "é", ""] ∧ splitChunks "aéé" 2 = ["a", "é", "é"] := by
  decide +kernel

end Switchyard.Call
