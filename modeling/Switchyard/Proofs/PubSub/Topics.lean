import Switchyard.PubSub.Topics

/-!
# Switchyard.Proofs.PubSub.Topics

Topics and their levels. `levels` cuts a text at its slashes (`levels_eq_splitOn`), so the levels of
a topic that was joined from parts without slashes are these parts (`levels_joinLevels`), and in
general those of its parts, one part after another (`levels_joinLevels_flatMap`). The topic of a
request names its route for that reason: module and action are read back from it
(`Topics.parseRequest?_request`).

A topic is read by its levels and built by joining parts, so whatever is proved of topics goes
through one of three lemmas about levels: what the levels of a joined topic are when no part has a
slash, when parts may have them, and when only the last part has none. The last two are needed
because neither controllers nor the names in notifications are checked for slashes.
-/

namespace Switchyard.PubSub

/-! ### Levels -/

theorem levels_eq_splitOn (text : List Char) : levels text = text.splitOn '/' := by
  induction text with
  | nil => rfl
  | cons c rest ih =>
      have hne : rest.splitOn '/' ≠ [] := List.splitOnP_ne_nil _ rest
      unfold levels
      rw [List.splitOn, List.splitOnP_cons_eq_if_modifyHead, ← List.splitOn, ih]
      by_cases hc : c = '/'
      · rw [if_pos hc, if_pos (by simpa using hc)]
      · rw [if_neg hc, if_neg (by simpa using hc)]
        cases hlevels : rest.splitOn '/' with
        | nil => exact absurd hlevels hne
        | cons level more => rfl

/-- The levels of a topic are the parts that it was joined from. -/
theorem levels_joinLevels {parts : List String} (hne : parts ≠ [])
    (hparts : ∀ part ∈ parts, '/' ∉ part.toList) :
    levels (joinLevels parts).toList = parts.map String.toList := by
  have hslash : ("/" : String).toList = ['/'] := rfl
  rw [levels_eq_splitOn, joinLevels, String.toList_intercalate, hslash]
  apply List.splitOn_intercalate
  · simpa using hparts
  · simpa using hne

theorem levels_ne_nil (text : List Char) : levels text ≠ [] := by
  rw [levels_eq_splitOn]
  exact List.splitOnP_ne_nil _ text

theorem levels_slash (rest : List Char) : levels ('/' :: rest) = [] :: levels rest :=
  if_pos rfl

/-- A character that is no slash belongs to the first level of what follows. -/
theorem levels_cons_of_ne {c : Char} {rest level : List Char} {more : List (List Char)}
    (hc : c ≠ '/') (hlevels : levels rest = level :: more) :
    levels (c :: rest) = (c :: level) :: more := by
  rw [levels, if_neg hc, hlevels]

/-- A text without slashes is one level. -/
theorem levels_of_slash_notMem {text : List Char} (h : '/' ∉ text) : levels text = [text] := by
  induction text with
  | nil => rfl
  | cons c rest ih =>
      obtain ⟨hc, hrest⟩ := not_or.mp (mt List.mem_cons.mpr h)
      exact levels_cons_of_ne (Ne.symm hc) (ih hrest)

/-- A slash divides the levels of what stands before it from those of what follows. By induction
over the text in front of it. -/
theorem levels_append_slash (before after : List Char) :
    levels (before ++ '/' :: after) = levels before ++ levels after := by
  induction before with
  | nil => exact levels_slash after
  | cons c rest ih =>
      by_cases hc : c = '/'
      · subst hc
        rw [List.cons_append, levels_slash, levels_slash, ih, List.cons_append]
      · obtain ⟨level, more, hlevels⟩ := List.exists_cons_of_ne_nil (levels_ne_nil rest)
        rw [hlevels, List.cons_append] at ih
        rw [List.cons_append, levels_cons_of_ne hc ih, levels_cons_of_ne hc hlevels,
          List.cons_append]

/-- The levels of a topic are those of the parts that it was joined from. A part with slashes has
several, and an empty part has one that is empty. -/
theorem levels_joinLevels_flatMap {parts : List String} (hne : parts ≠ []) :
    levels (joinLevels parts).toList = parts.flatMap fun part => levels part.toList := by
  have hslash : ("/" : String).toList = ['/'] := rfl
  rw [joinLevels, String.toList_intercalate, hslash]
  induction parts with
  | nil => exact absurd rfl hne
  | cons part rest ih =>
      cases rest with
      | nil => simp
      | cons next more =>
          have hrest := ih (List.cons_ne_nil next more)
          rw [List.flatMap_cons, ← hrest, ← levels_append_slash]
          simp

theorem levels_joinLevels_concat (parts : List String) (last : String) (h : '/' ∉ last.toList) :
    levels (joinLevels (parts ++ [last])).toList =
      (parts.flatMap fun part => levels part.toList) ++ [last.toList] := by
  rw [levels_joinLevels_flatMap (by simp), List.flatMap_append, List.flatMap_singleton,
    levels_of_slash_notMem h]

/-! ### Requests -/

/-- A name that stands for itself as one level of a topic. An empty one would be a level as well,
but no name is read from it. -/
def IsLevel (name : String) : Prop :=
  name ≠ "" ∧ '/' ∉ name.toList

instance (name : String) : Decidable (IsLevel name) :=
  inferInstanceAs (Decidable (_ ∧ _))

/-- The topic of a request names its route. -/
theorem Topics.parseRequest?_request {t : Topics} {module action : String}
    (ht : '/' ∉ t.controller.toList) (hmodule : IsLevel module) (haction : IsLevel action) :
    t.parseRequest? (t.request module action) = some (module, action) := by
  have hparts : ∀ part ∈ [root, t.controller, "request", module, "action", action],
      '/' ∉ part.toList := by
    have hroot : '/' ∉ root.toList := by decide
    have hrequest : '/' ∉ "request".toList := by decide
    have haction' : '/' ∉ "action".toList := by decide
    simp only [List.forall_mem_cons]
    exact ⟨hroot, ht, hrequest, hmodule.2, haction', haction.2, by simp⟩
  have hlevels := levels_joinLevels (by simp) hparts
  have hnil {s : String} (h : s ≠ "") : s.toList ≠ [] := by simpa using h
  unfold parseRequest? request
  rw [hlevels]
  refine (if_pos ⟨rfl, rfl, rfl, rfl, hnil hmodule.1, hnil haction.1⟩).trans ?_
  rw [String.ofList_toList, String.ofList_toList]

end Switchyard.PubSub
