import Mathlib.Data.Finset.Card
import Switchyard.Call.Assembler

/-!
# Switchyard.Proofs.Call.Assembler

**What an assembler answers is a function of its history.** The history is the list of chunks that
it was fed, of any ids in any order. `Agrees` says what the assembler has made of it: retired are
the ids whose last chunk has come, live are the other ids that were fed, each with the text of its
own chunks joined in order. Feeding one more chunk keeps the agreement (`Agrees.feed`), so it holds
after every history (`agrees_run`), and the answers are read off it.

The agreement says what is in the lists of the assembler and not how they are ordered: which ids are
in them, which text goes with each, and that no id stands twice. A chunk does one of three things,
and there is one lemma for each: it is ignored (`Agrees.ignore`), it makes or keeps its id live
(`Agrees.more`), or it retires its id (`Agrees.retire`). In each of them an id is the one that was
fed or another one, and for the others nothing changes (`closed_append_of_ne`, `open_append_of_ne`,
`gathered_append_of_ne`).

* `take_of_no_id`, `take_of_retired`, `take_more`, `take_last` — the four cases of feeding a chunk.
  Nothing else opens `feed`.
* `answer_local` — chunks of other ids make no difference, because closedness and text are read off
  the chunks of the id.
* `pending_run` — the live ids as a finite set, so that they can be counted.
-/

namespace Switchyard.Call

/-- One call. -/
structure Chunk where
  id : Option String
  text : String
  /-- Whether no more will come. -/
  last : Bool

namespace Assembler

variable {a : Assembler} {history : List Chunk} {c : Chunk} {id i : String}

/-- Takes a chunk. -/
def take (a : Assembler) (c : Chunk) : Feed × Assembler :=
  a.feed c.id c.text c.last

/-- The assembler after a history. -/
def run (history : List Chunk) : Assembler :=
  history.foldl (fun a c => (a.take c).2) empty

/-! ### Histories -/

/-- The last chunk of the id has come. What came of it (an object or a failure) makes no difference.
-/
def Closed (id : String) (history : List Chunk) : Prop :=
  ∃ c ∈ history, c.id = some id ∧ c.last = true

/-- The id was fed, and its last chunk has not come. -/
def Open (id : String) (history : List Chunk) : Prop :=
  (∃ c ∈ history, c.id = some id) ∧ ¬Closed id history

/-- The chunks of the id, joined in order. -/
def gathered (id : String) (history : List Chunk) : String :=
  String.join ((history.filter (·.id = some id)).map (·.text))

theorem closed_append : Closed id (history ++ [c]) ↔
    Closed id history ∨ (c.id = some id ∧ c.last = true) := by
  simp [Closed, or_and_right, exists_or]

/-- A chunk of another id changes nothing for an id. -/
theorem closed_append_of_ne (h : c.id ≠ some id) :
    Closed id (history ++ [c]) ↔ Closed id history := by
  simp [closed_append, h]

theorem open_append_of_ne (h : c.id ≠ some id) : Open id (history ++ [c]) ↔ Open id history := by
  simp [Open, closed_append_of_ne h, or_and_right, exists_or, h]

theorem gathered_append_of_ne (h : c.id ≠ some id) :
    gathered id (history ++ [c]) = gathered id history := by
  simp [gathered, List.filter_append, h]

theorem gathered_append (h : c.id = some id) :
    gathered id (history ++ [c]) = gathered id history ++ c.text := by
  simp [gathered, List.filter_append, h, String.join]

theorem open_append (h : c.id = some id) :
    Open id (history ++ [c]) ↔ ¬Closed id history ∧ c.last = false := by
  simp only [Open, closed_append, not_or]
  constructor
  · rintro ⟨-, hclosed, hlast⟩
    exact ⟨hclosed, by simpa [h] using hlast⟩
  · rintro ⟨hclosed, hlast⟩
    exact ⟨⟨c, by simp, h⟩, hclosed, by simp [hlast]⟩

/-! ### One chunk -/

theorem take_of_no_id (h : c.id = none ∨ c.id = some "") : a.take c = (.failed, a) := by
  rcases h with h | h
  · simp [take, feed, h]
  · simp [take, feed, h]

theorem take_of_retired (hid : c.id = some id) (h : id ∈ a.retired) : a.take c = (.failed, a) := by
  simp [take, feed, hid, h]

theorem take_more (hid : c.id = some id) (hne : id ≠ "") (h : id ∉ a.retired)
    (hlast : c.last = false) :
    a.take c = (.pending, ⟨(id, a.text id ++ c.text) :: a.others id, a.retired⟩) := by
  simp [take, feed, hid, h, hlast, hne]

theorem take_last (hid : c.id = some id) (hne : id ≠ "") (h : id ∉ a.retired)
    (hlast : c.last = true) :
    a.take c = (conclude (a.text id ++ c.text), ⟨a.others id, id :: a.retired⟩) := by
  simp [take, feed, hid, h, hlast, hne]

theorem mem_others {text : String} :
    (id, text) ∈ a.others i ↔ (id, text) ∈ a.live ∧ id ≠ i := by
  simp [others]

/-! ### Agreement with a history -/

/-- What the assembler holds is what the history left open or closed. The empty id is neither: a
chunk under it is refused as one without an id. -/
structure Agrees (a : Assembler) (history : List Chunk) : Prop where
  retired : ∀ id, id ∈ a.retired ↔ id ≠ "" ∧ Closed id history
  live : ∀ id text,
    (id, text) ∈ a.live ↔ id ≠ "" ∧ Open id history ∧ text = gathered id history
  /-- Every live id has one text. -/
  nodup : (a.live.map (·.1)).Nodup

theorem Agrees.not_retired (h : Agrees a history) (hopen : ¬Closed id history) :
    id ∉ a.retired := by
  rw [h.retired]
  rintro ⟨-, hclosed⟩
  exact hopen hclosed

theorem Agrees.mem_keys (h : Agrees a history) :
    id ∈ a.live.map (·.1) ↔ id ≠ "" ∧ Open id history := by
  rw [List.mem_map]
  constructor
  · rintro ⟨⟨_, text⟩, hmem, rfl⟩
    obtain ⟨hne, hopen, -⟩ := (h.live _ text).mp hmem
    exact ⟨hne, hopen⟩
  · rintro ⟨hne, hopen⟩
    exact ⟨(id, gathered id history), (h.live id _).mpr ⟨hne, hopen, rfl⟩, rfl⟩

/-- The text so far of an id that is not closed is made of its chunks. An id that was never fed has
no entry, and no chunks either. -/
theorem Agrees.text (h : Agrees a history) (hne : id ≠ "") (hclosed : ¬Closed id history) :
    a.text id = gathered id history := by
  unfold Assembler.text
  cases hfind : a.live.find? (·.1 = id) with
  | some entry =>
      obtain ⟨key, text⟩ := entry
      obtain rfl : key = id := by simpa using List.find?_some hfind
      exact ((h.live key text).mp (List.mem_of_find?_eq_some hfind)).2.2
  | none =>
      -- An id without an entry was never fed, and so has no chunks either.
      have hnever : ∀ c ∈ history, c.id ≠ some id := by
        intro c hc hid
        have hmem := (h.live id _).mpr ⟨hne, ⟨⟨c, hc, hid⟩, hclosed⟩, rfl⟩
        have hmiss := List.find?_eq_none.mp hfind _ hmem
        simp at hmiss
      have hempty : history.filter (·.id = some id) = [] := by
        rw [List.filter_eq_nil_iff]
        simpa using hnever
      simp [gathered, hempty, String.join]

theorem agrees_empty : Agrees empty [] := by
  refine ⟨?_, ?_, List.nodup_nil⟩
  · intro id
    simp [empty, Closed]
  · intro id text
    simp [empty, Open]

/-- A chunk that leaves the assembler as it was leaves the agreement, if it is of no id or of a
closed one. -/
theorem Agrees.ignore (h : Agrees a history)
    (hc : ∀ id, c.id = some id → id = "" ∨ Closed id history) : Agrees a (history ++ [c]) := by
  refine ⟨?_, ?_, h.nodup⟩
  · intro id
    rw [h.retired id, and_congr_right_iff]
    intro hne
    by_cases hid : c.id = some id
    · have hclosed := (hc id hid).resolve_left hne
      simp [closed_append, hclosed]
    · rw [closed_append_of_ne hid]
  · intro id text
    rw [h.live id text, and_congr_right_iff]
    intro hne
    by_cases hid : c.id = some id
    · have hclosed := (hc id hid).resolve_left hne
      simp [Open, closed_append, hclosed]
    · rw [open_append_of_ne hid, gathered_append_of_ne hid]

/-- The ids other than the one that is fed, live or not, are open with the same text as before. -/
theorem Agrees.others (h : Agrees a history) (hid : c.id = some i) (text : String) :
    (id, text) ∈ a.others i ↔
      id ≠ "" ∧ (Open id (history ++ [c]) ∧ text = gathered id (history ++ [c])) ∧ id ≠ i := by
  rw [mem_others, h.live]
  by_cases hi : id = i
  · simp [hi]
  · have hne : c.id ≠ some id := by
      rw [hid]
      exact fun heq => hi (Option.some.inj heq).symm
    rw [open_append_of_ne hne, gathered_append_of_ne hne]
    simp [hi]

theorem Agrees.nodup_others (h : Agrees a history) (i : String) :
    ((a.others i).map (·.1)).Nodup :=
  h.nodup.sublist (List.filter_sublist.map _)

theorem not_mem_others (a : Assembler) (i : String) : i ∉ (a.others i).map (·.1) := by
  intro hmem
  obtain ⟨⟨key, text⟩, hentry, rfl⟩ := List.mem_map.mp hmem
  exact (mem_others.mp hentry).2 rfl

/-- A chunk that is not the last one makes or keeps its id live, with its own text behind that of
the chunks before it. -/
theorem Agrees.more (h : Agrees a history) (hid : c.id = some i) (hne : i ≠ "")
    (hclosed : ¬Closed i history) (hlast : c.last = false) :
    Agrees ⟨(i, a.text i ++ c.text) :: a.others i, a.retired⟩ (history ++ [c]) := by
  refine ⟨?_, ?_, ?_⟩
  · intro id
    simp [h.retired id, closed_append, hlast]
  · intro id text
    -- The new entry stands for `i`, and what `others` left stands for the rest.
    rw [List.mem_cons, h.others hid, Prod.mk.injEq]
    by_cases hi : id = i
    · subst hi
      rw [h.text hne hclosed, ← gathered_append hid]
      simp [hne, open_append hid, hclosed, hlast]
    · simp [hi]
  · exact List.nodup_cons.mpr ⟨not_mem_others a i, h.nodup_others i⟩

/-- The last chunk retires its id, and takes it off the live ones. If there was only this chunk, the
id was never live. -/
theorem Agrees.retire (h : Agrees a history) (hid : c.id = some i) (hne : i ≠ "")
    (hlast : c.last = true) : Agrees ⟨a.others i, i :: a.retired⟩ (history ++ [c]) := by
  refine ⟨?_, ?_, h.nodup_others i⟩
  · intro id
    rw [List.mem_cons, h.retired id, closed_append, hid]
    by_cases hi : id = i
    · subst hi
      simp [hne, hlast]
    · have hi' : i ≠ id := fun heq => hi heq.symm
      simp [hi, hi']
  · intro id text
    rw [h.others hid]
    by_cases hi : id = i
    · subst hi
      simp [open_append hid, hlast]
    · simp [hi]

/-- Feeding a chunk keeps the agreement. The cases are those of the code: no usable id, a retired
one, a chunk with others to come, and the last one. -/
theorem Agrees.feed (h : Agrees a history) (c : Chunk) :
    Agrees (a.take c).2 (history ++ [c]) := by
  cases hid : c.id with
  | none =>
      rw [take_of_no_id (.inl hid)]
      exact h.ignore (by simp [hid])
  | some i =>
      by_cases hne : i = ""
      · rw [take_of_no_id (.inr (hne ▸ hid))]
        exact h.ignore (by simp [hid, hne])
      · by_cases hclosed : Closed i history
        · rw [take_of_retired hid ((h.retired i).mpr ⟨hne, hclosed⟩)]
          exact h.ignore (by simp [hid, hclosed])
        · cases hlast : c.last with
          | false =>
              rw [take_more hid hne (h.not_retired hclosed) hlast]
              exact h.more hid hne hclosed hlast
          | true =>
              rw [take_last hid hne (h.not_retired hclosed) hlast]
              exact h.retire hid hne hlast

theorem run_append (history : List Chunk) (c : Chunk) :
    run (history ++ [c]) = ((run history).take c).2 := by
  simp [run]

/-- The assembler agrees with its history, by induction on the chunks from the last one. -/
theorem agrees_run (history : List Chunk) : Agrees (run history) history := by
  induction history using List.reverseRecOn with
  | nil => exact agrees_empty
  | append_singleton history c ih =>
      rw [run_append]
      exact ih.feed c

/-! ### Answers -/

theorem conclude_of_object {text : String} {members : Json.Members}
    (h : Json.parse? (Utf8.encode text) = some (.object members)) :
    conclude text = .complete (.object members) := by
  simp [conclude, h]

theorem conclude_of_no_object {text : String}
    (h : ∀ members, Json.parse? (Utf8.encode text) ≠ some (.object members)) :
    conclude text = .failed := by
  unfold conclude
  split
  · rename_i members hm
    exact absurd hm (h members)
  · rfl

theorem answer_of_closed (hid : c.id = some id) (hne : id ≠ "") (h : Closed id history) :
    ((run history).take c).1 = .failed := by
  rw [take_of_retired hid (((agrees_run history).retired id).mpr ⟨hne, h⟩)]

theorem answer_of_more (hid : c.id = some id) (hne : id ≠ "") (h : ¬Closed id history)
    (hlast : c.last = false) : ((run history).take c).1 = .pending := by
  rw [take_more hid hne ((agrees_run history).not_retired h) hlast]

theorem answer_of_last (hid : c.id = some id) (hne : id ≠ "") (h : ¬Closed id history)
    (hlast : c.last = true) :
    ((run history).take c).1 = conclude (gathered id (history ++ [c])) := by
  have hagrees := agrees_run history
  rw [take_last hid hne (hagrees.not_retired h) hlast, hagrees.text hne h, gathered_append hid]

/-! ### Calls for other ids -/

theorem closed_iff_filter :
    Closed id history ↔ ∃ c ∈ history.filter (·.id = some id), c.last = true := by
  simp [Closed, and_assoc]

/-- The answer to a chunk depends on the earlier chunks of the same id only. -/
theorem answer_local (history other : List Chunk) (c : Chunk)
    (h : other.filter (·.id = c.id) = history.filter (·.id = c.id)) :
    ((run other).take c).1 = ((run history).take c).1 := by
  cases hid : c.id with
  | none => rw [take_of_no_id (.inl hid), take_of_no_id (.inl hid)]
  | some id =>
      rw [hid] at h
      by_cases hne : id = ""
      · rw [take_of_no_id (.inr (hne ▸ hid)), take_of_no_id (.inr (hne ▸ hid))]
      · -- Whether the id is closed and what its chunks spell are both read off its own chunks.
        have hsame : Closed id other ↔ Closed id history := by
          rw [closed_iff_filter, closed_iff_filter, h]
        have hgathered : gathered id other = gathered id history := by
          unfold gathered
          rw [h]
        by_cases hclosed : Closed id history
        · rw [answer_of_closed hid hne hclosed, answer_of_closed hid hne (hsame.mpr hclosed)]
        · have hopen : ¬Closed id other := fun hc => hclosed (hsame.mp hc)
          cases hlast : c.last with
          | false => rw [answer_of_more hid hne hopen hlast, answer_of_more hid hne hclosed hlast]
          | true =>
              rw [answer_of_last hid hne hopen hlast, answer_of_last hid hne hclosed hlast,
                gathered_append hid, gathered_append hid, hgathered]

/-! ### Live ids -/

/-- The ids that were fed and whose last chunk has not come. It is computed from the history,
without an assembler. -/
def openIds (history : List Chunk) : Finset String :=
  {id ∈ (history.filterMap (·.id)).toFinset |
    id ≠ "" ∧ ∀ c ∈ history, c.id = some id → c.last = false}

theorem mem_openIds : id ∈ openIds history ↔ id ≠ "" ∧ Open id history := by
  simp only [openIds, Finset.mem_filter, List.mem_toFinset, List.mem_filterMap, Open, Closed,
    not_exists, not_and, Bool.not_eq_true]
  tauto

theorem pending_run (history : List Chunk) : (run history).pending = (openIds history).card := by
  have hagrees := agrees_run history
  -- The keys of the live entries are the open ids, and no key stands twice.
  have hkeys : ((run history).live.map (·.1)).toFinset = openIds history := by
    ext id
    rw [List.mem_toFinset, hagrees.mem_keys, mem_openIds]
  calc (run history).pending
      = ((run history).live.map (·.1)).length := (List.length_map _).symm
    _ = ((run history).live.map (·.1)).toFinset.card :=
        (List.toFinset_card_of_nodup hagrees.nodup).symm
    _ = (openIds history).card := by rw [hkeys]

theorem live_not_retired (history : List Chunk) (id : String) :
    ¬(id ∈ (run history).live.map (·.1) ∧ id ∈ (run history).retired) := by
  have hagrees := agrees_run history
  rintro ⟨hlive, hretired⟩
  exact (hagrees.mem_keys.mp hlive).2.2 ((hagrees.retired id).mp hretired).2

/-- **Every answer is made of the history.** A chunk without an id fails and changes nothing. For an
id, chunks before its last one are pending; the last one gives the object that all its chunks spell
in order, or fails if they spell none; whatever comes for the id after that fails. Chunks of other
ids make no difference. The number of pending assemblies is the number of ids that were fed and not
closed, and no id is live and retired. -/
theorem answers_of_history (history : List Chunk) (c : Chunk) :
    (c.id = none ∨ c.id = some "" → (run history).take c = (.failed, run history)) ∧
    (∀ id, c.id = some id → id ≠ "" →
      (Closed id history → ((run history).take c).1 = .failed) ∧
      (¬Closed id history → c.last = false → ((run history).take c).1 = .pending) ∧
      (¬Closed id history → c.last = true →
        (∀ members,
          Json.parse? (Utf8.encode (gathered id (history ++ [c]))) = some (.object members) →
            ((run history).take c).1 = .complete (.object members)) ∧
        ((∀ members,
          Json.parse? (Utf8.encode (gathered id (history ++ [c]))) ≠ some (.object members)) →
            ((run history).take c).1 = .failed))) ∧
    (∀ other, other.filter (·.id = c.id) = history.filter (·.id = c.id) →
      ((run other).take c).1 = ((run history).take c).1) ∧
    (run history).pending = (openIds history).card ∧
    (∀ id, ¬(id ∈ (run history).live.map (·.1) ∧ id ∈ (run history).retired)) := by
  refine ⟨take_of_no_id, ?_, fun other => answer_local history other c, pending_run history,
    live_not_retired history⟩
  intro id hid hne
  refine ⟨answer_of_closed hid hne, answer_of_more hid hne, ?_⟩
  intro hopen hlast
  rw [answer_of_last hid hne hopen hlast]
  exact ⟨fun members => conclude_of_object, conclude_of_no_object⟩

end Assembler
end Switchyard.Call
