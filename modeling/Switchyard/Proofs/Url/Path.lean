import Switchyard.Proofs.Url.Host

/-!
# Switchyard.Proofs.Url.Path

**A path with slashes that a URL gives is plain** (`plainPath_of_hierarchicalPath`): nothing in it
is left to be escaped, to be taken for a query or to be resolved. The plain paths are those that a
URL holds as they are (`hierarchicalPath_of_plainPath`).

A path is read in three steps: it is cut at the slashes, its segments are escaped, and the segments
that are dots are resolved. `PlainPath` asks for each of these steps that it leaves the path alone.
That nothing else can come out of them is proved segment by segment.
-/

namespace Switchyard.Url

/-- A path from the root that means itself in a URL: it has nothing to be escaped, and so no mark
that begins a query, and no segments of dots. -/
structure PlainPath (path : String) : Prop where
  absolute : path.toList.head? = some '/'
  kept : ∀ c ∈ path.toList, Kept escapedInPath c
  noDots : ∀ part ∈ path.toList.splitOn '/', isSelf part = false ∧ isParent part = false

variable {parts acc : List (List Char)} {s part : List Char}

/-! ### Segments -/

/-- The segments are the library's parts between slashes, escaped one by one. -/
theorem segments_eq (s : List Char) :
    segments .other s = (s.splitOn '/').map fun part => part.flatMap (escape escapedInPath) := by
  induction s with
  | nil => rfl
  | cons c s ih =>
      have hslash : SchemeKind.other.isSlash c = (c == '/') := by
        simp [SchemeKind.isSlash, beq_eq_decide]
      rw [segments, hslash, ih, List.splitOn_cons_eq_if_modifyHead]
      split
      · rfl
      · obtain ⟨part, more, hparts⟩ := List.exists_cons_of_ne_nil (List.splitOn_ne_nil '/' s)
        rw [hparts]
        rfl

/-- A segment is a part of the text without a slash. -/
theorem mem_splitOn {c : Char} (h : part ∈ s.splitOn '/') (hc : c ∈ part) : c ∈ s ∧ c ≠ '/' := by
  induction s generalizing part with
  | nil =>
      rw [List.mem_singleton.mp h] at hc
      cases hc
  | cons d s ih =>
      have hmore : c ∈ s ∧ c ≠ '/' → c ∈ d :: s ∧ c ≠ '/' :=
        fun h => ⟨List.mem_cons_of_mem d h.1, h.2⟩
      rw [List.splitOn_cons_eq_if_modifyHead] at h
      split at h
      · rcases List.mem_cons.mp h with rfl | h
        · cases hc
        · exact hmore (ih h hc)
      next hslash =>
        obtain ⟨first, more, hparts⟩ := List.exists_cons_of_ne_nil (List.splitOn_ne_nil '/' s)
        rw [hparts] at h ih
        rcases List.mem_cons.mp h with rfl | h
        · rcases List.mem_cons.mp hc with rfl | hc
          · exact ⟨List.mem_cons_self, by simpa using hslash⟩
          · exact hmore (ih List.mem_cons_self hc)
        · exact hmore (ih (List.mem_cons_of_mem first h) hc)

theorem mem_segments {c : Char} (h : part ∈ segments .other s) (hc : c ∈ part) :
    Kept escapedInPath c ∧ c ≠ '/' := by
  rw [segments_eq] at h
  obtain ⟨source, hsource, rfl⟩ := List.mem_map.mp h
  obtain ⟨d, hd, hc⟩ := List.mem_flatMap.mp hc
  rcases mem_escape hc with ⟨rfl, hkept⟩ | hc
  · exact ⟨hkept, (mem_splitOn hsource hd).2⟩
  · have hchars : ∀ c ∈ escapeChars, Kept escapedInPath c ∧ c ≠ '/' := forall_of_all (by decide)
    exact hchars c hc

theorem segments_of_kept (h : ∀ c ∈ s, Kept escapedInPath c) :
    segments .other s = s.splitOn '/' := by
  rw [segments_eq]
  conv_rhs => rw [← List.map_id (s.splitOn '/')]
  exact List.map_congr_left fun part hpart =>
    flatMap_escape_of_kept fun c hc => h c (mem_splitOn hpart hc).1

/-! ### Dots -/

theorem mem_dropLastSegment (h : part ∈ dropLastSegment acc) : part ∈ acc := by
  unfold dropLastSegment at h
  split at h
  · exact h
  · split at h
    · exact h
    · exact List.mem_cons_of_mem _ h

/-- What resolving leaves are segments that were there, or an empty one; no dots are among them.

By induction on the segments that are still to come, with those that are kept so far as a variable,
since a pair of dots takes one of them away. -/
theorem mem_resolveDots (hacc : ∀ part ∈ acc, isSelf part = false ∧ isParent part = false)
    (h : part ∈ resolveDots acc parts) :
    (part ∈ acc ∨ part = [] ∨ part ∈ parts) ∧ isSelf part = false ∧ isParent part = false := by
  induction parts generalizing acc with
  | nil =>
      have hmem := List.mem_reverse.mp h
      exact ⟨.inl hmem, hacc part hmem⟩
  | cons s parts ih =>
      rw [resolveDots] at h
      -- What goes on is what was there, with `s` if it is no dots.
      generalize hnext : (if isParent s then dropLastSegment acc
        else if isSelf s then acc else s :: acc) = next at h
      have hmem : ∀ p ∈ next, (p ∈ acc ∨ p = s) ∧ isSelf p = false ∧ isParent p = false := by
        subst hnext
        intro p hp
        split at hp
        next =>
          have hp := mem_dropLastSegment hp
          exact ⟨.inl hp, hacc p hp⟩
        next hparent =>
          split at hp
          next => exact ⟨.inl hp, hacc p hp⟩
          next hself =>
            rcases List.mem_cons.mp hp with rfl | hp
            · exact ⟨.inr rfl, by simpa using hself, by simpa using hparent⟩
            · exact ⟨.inl hp, hacc p hp⟩
      split at h
      · rcases List.mem_cons.mp (List.mem_reverse.mp h) with rfl | h
        · exact ⟨.inr (.inl rfl), by decide, by decide⟩
        · obtain ⟨hfrom, hdots⟩ := hmem part h
          exact ⟨hfrom.imp_right fun heq => .inr (List.mem_cons.mpr (.inl heq)), hdots⟩
      · obtain ⟨hfrom, hdots⟩ := ih (fun p hp => (hmem p hp).2) h
        refine ⟨?_, hdots⟩
        rcases hfrom with hfrom | rfl | hfrom
        · exact (hmem part hfrom).1.imp_right fun heq => .inr (List.mem_cons.mpr (.inl heq))
        · exact .inr (.inl rfl)
        · exact .inr (.inr (List.mem_cons_of_mem s hfrom))

theorem resolveDots_of_noDots
    (h : ∀ part ∈ parts, isSelf part = false ∧ isParent part = false) :
    resolveDots acc parts = acc.reverse ++ parts := by
  induction parts generalizing acc with
  | nil => simp [resolveDots]
  | cons part parts ih =>
      obtain ⟨⟨hself, hparent⟩, hparts⟩ := List.forall_mem_cons.mp h
      simp [resolveDots, hself, hparent, ih hparts]

theorem toList_joinSegments (h : parts ≠ []) :
    (joinSegments parts).toList = '/' :: ['/'].intercalate parts := by
  rw [joinSegments, String.toList_ofList]
  induction parts with
  | nil => exact absurd rfl h
  | cons part parts ih =>
      cases parts with
      | nil => simp
      | cons next parts =>
          rw [List.flatMap_cons, ih (by simp), List.intercalate_cons_cons]
          simp

/-! ### Whole paths -/

/-- What a URL gives as its path is a plain path, unless there is none. -/
theorem plainPath_of_hierarchicalPath (h : hierarchicalPath .other s ≠ "") :
    PlainPath (hierarchicalPath .other s) := by
  obtain ⟨rest, hpath⟩ : ∃ rest, hierarchicalPath .other s =
      joinSegments (resolveDots [] (segments .other rest)) := by
    unfold hierarchicalPath at h ⊢
    split at h
    · exact absurd rfl h
    · exact ⟨_, rfl⟩
  rw [hpath] at h ⊢
  have hne : resolveDots [] (segments .other rest) ≠ [] := by
    intro hnil
    rw [hnil] at h
    exact h rfl
  have hmem : ∀ part ∈ resolveDots [] (segments .other rest),
      (∀ c ∈ part, Kept escapedInPath c ∧ c ≠ '/') ∧ isSelf part = false ∧
        isParent part = false := by
    intro part hpart
    obtain ⟨hfrom, hdots⟩ := mem_resolveDots (by simp) hpart
    refine ⟨fun c hc => ?_, hdots⟩
    rcases hfrom with hfrom | rfl | hfrom
    · cases hfrom
    · cases hc
    · exact mem_segments hfrom hc
  have htext := toList_joinSegments hne
  constructor
  · rw [htext, List.head?_cons]
  · intro c hc
    rw [joinSegments, String.toList_ofList] at hc
    obtain ⟨part, hpart, hc⟩ := List.mem_flatMap.mp hc
    rcases List.mem_cons.mp hc with rfl | hc
    · decide
    · exact ((hmem part hpart).1 c hc).1
  · have hsplit := List.splitOn_intercalate '/' (fun part hpart hc =>
      ((hmem part hpart).1 '/' hc).2 rfl) hne
    rw [htext, List.splitOn_cons_eq_if_modifyHead, if_pos (by simp), hsplit]
    intro part hpart
    rcases List.mem_cons.mp hpart with rfl | hpart
    · decide
    · exact (hmem part hpart).2

/-- A plain path is read from a URL as it is. -/
theorem hierarchicalPath_of_plainPath {path : String} (h : PlainPath path) :
    hierarchicalPath .other path.toList = path := by
  obtain ⟨rest, hrest⟩ := List.head?_eq_some_iff.mp h.absolute
  have hkept := h.kept
  have hdots := h.noDots
  have hbefore : beforeQuery path.toList = path.toList := by
    refine List.takeWhile_eq_self_iff.mpr fun c hc => ?_
    have hquery := (hkept c hc).ne (d := '?') (by decide)
    have hfragment := (hkept c hc).ne (d := '#') (by decide)
    simp [hquery, hfragment]
  rw [hrest, List.splitOn_cons_eq_if_modifyHead, if_pos (by simp)] at hdots
  unfold hierarchicalPath
  rw [hbefore, hrest]
  dsimp only
  rw [if_pos (by decide), segments_of_kept, resolveDots_of_noDots, List.reverse_nil,
    List.nil_append]
  · apply String.toList_inj.mp
    rw [toList_joinSegments (List.splitOn_ne_nil '/' rest), List.intercalate_splitOn, hrest]
  · exact fun part hpart => hdots part (List.mem_cons_of_mem [] hpart)
  · exact fun c hc => hkept c (by rw [hrest]; exact List.mem_cons_of_mem '/' hc)

/-- A path that is not made of segments does not become absolute, since an escape does not begin
with a slash. -/
theorem head?_opaquePath (h : s.head? ≠ some '/') : (opaquePath s).toList.head? ≠ some '/' := by
  rw [opaquePath, String.toList_ofList, beforeQuery]
  cases s with
  | nil => simp
  | cons c s =>
      have hc : c ≠ '/' := by simpa using h
      rw [List.takeWhile_cons]
      split
      · obtain ⟨d, more, heq⟩ := List.exists_cons_of_ne_nil (escape_ne_nil (fun _ => false) c)
        have hd : d ≠ '/' := by
          rcases mem_escape (heq ▸ List.mem_cons_self) with ⟨rfl, -⟩ | hd
          · exact hc
          · have hchars : ∀ d ∈ escapeChars, d ≠ '/' := forall_of_all (by decide)
            exact hchars d hd
        rw [List.flatMap_cons, heq]
        simpa using hd
      · simp

end Switchyard.Url
