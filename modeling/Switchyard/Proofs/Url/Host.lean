import Switchyard.Proofs.Text.Utf8
import Switchyard.Proofs.Url.Address
import Switchyard.Url.Basic

/-!
# Switchyard.Proofs.Url.Host

**A host of a scheme that is not well known is read from its own text as itself**
(`opaqueHost_of_hostText`): it is an address between brackets, or it has lost all that would be
escaped or refused when it was read first (`hostText_of_opaqueHost`). In front of a colon it is
found as a whole (`splitHost_of_hostText`).

Two sets of characters matter: those that may not stand in a host, and those that would end it when
it is looked for in a URL. The first set has all of the second, so a host that was read is also
found again.
-/

namespace Switchyard.Url

/-! ### Escapes -/

/-- A character that is not escaped: a printable one of ASCII that is not in the set of those that
are. -/
def Kept (escaped : Char → Bool) (c : Char) : Prop :=
  ' ' ≤ c ∧ c ≤ '~' ∧ escaped c = false

instance (escaped : Char → Bool) (c : Char) : Decidable (Kept escaped c) :=
  inferInstanceAs (Decidable (_ ∧ _ ∧ _))

variable {escaped : Char → Bool} {c d : Char} {s : List Char}

/-- A property of listed characters, decided on the list alone and not on all characters. -/
theorem forall_of_all {P : Char → Prop} [DecidablePred P]
    (h : s.all (fun c => decide (P c)) = true) : ∀ c ∈ s, P c :=
  fun c hc => of_decide_eq_true (List.all_eq_true.mp h c hc)

theorem Kept.ne (h : Kept escaped c) (hd : escaped d = true) : c ≠ d := by
  rintro rfl
  exact absurd h.2.2 (by simp [hd])

theorem Kept.visible (h : Kept escaped c) (hspace : escaped ' ' = true) : ' ' < c :=
  Std.lt_of_le_of_ne h.1 (h.ne hspace).symm

theorem escape_of_kept (h : Kept escaped c) : escape escaped c = [c] :=
  if_pos ⟨h.1, h.2.1, by simp [h.2.2]⟩

theorem flatMap_escape_of_kept (h : ∀ c ∈ s, Kept escaped c) :
    s.flatMap (escape escaped) = s := by
  induction s with
  | nil => rfl
  | cons c s ih =>
      obtain ⟨hc, hs⟩ := List.forall_mem_cons.mp h
      rw [List.flatMap_cons, escape_of_kept hc, ih hs, List.singleton_append]

/-- The characters that escapes are made of. -/
def escapeChars : List Char := "%0123456789ABCDEF".toList

theorem mem_percent {b : UInt8} (h : c ∈ percent b) : c ∈ escapeChars := by
  have hdigit : ∀ n < 16, (Octets.hexDigit n).toUpper ∈ escapeChars := by decide
  have hb : b.toNat < 256 := b.toNat_lt
  simp only [percent, List.mem_cons, List.not_mem_nil, or_false] at h
  rcases h with rfl | rfl | rfl
  · decide
  · exact hdigit _ (by omega)
  · exact hdigit _ (by omega)

theorem mem_escape (h : d ∈ escape escaped c) :
    d = c ∧ Kept escaped c ∨ d ∈ escapeChars := by
  unfold escape at h
  split at h
  next hc => exact .inl ⟨List.mem_singleton.mp h, hc.1, hc.2.1, by simpa using hc.2.2⟩
  next =>
    obtain ⟨b, -, hb⟩ := List.mem_flatMap.mp h
    exact .inr (mem_percent hb)

theorem escape_ne_nil (escaped : Char → Bool) (c : Char) : escape escaped c ≠ [] := by
  unfold escape
  split
  · simp
  · rw [Utf8.encode_ofList]
    obtain ⟨b, more, hbytes⟩ := List.exists_cons_of_ne_nil (String.utf8EncodeChar_ne_nil (c := c))
    simp [hbytes, percent]

/-! ### Hosts -/

/-- The text of a host of a scheme that is not well known: characters that are kept, or an address
between brackets, in the one form in which addresses are written. -/
inductive HostText : List Char → Prop
  | name {s : List Char} (h : ∀ c ∈ s, Kept isForbidden c) : HostText s
  | address {groups : List Nat} (h : IsAddress groups) :
      HostText ('[' :: ((renderGroups groups).toList ++ [']']))

theorem hostText_of_bracketed {host : String} (h : bracketed s = .ok host) :
    HostText host.toList := by
  unfold bracketed at h
  split at h
  · split at h
    next hparse =>
      cases h
      simpa using HostText.address (isAddress_of_parseGroups? hparse)
    next => cases h
  · cases h

theorem bracketed_of_isAddress {groups : List Nat} (h : IsAddress groups) :
    bracketed ((renderGroups groups).toList ++ [']']) =
      .ok ("[" ++ renderGroups groups ++ "]") := by
  unfold bracketed
  rw [List.reverse_append, List.reverse_singleton, List.singleton_append]
  simp only [List.reverse_reverse, parseGroups?_renderGroups h]

/-- What is read as a host is the text of one. Escaping leaves only characters that are kept, since
escapes are made of such. -/
theorem hostText_of_opaqueHost {host : String} (h : opaqueHost s = .ok host) :
    HostText host.toList := by
  unfold opaqueHost at h
  split at h
  · exact hostText_of_bracketed h
  · split at h
    · cases h
    next hforbidden =>
      cases h
      rw [String.toList_ofList]
      refine .name fun d hd => ?_
      obtain ⟨c, hc, hd⟩ := List.mem_flatMap.mp hd
      rcases mem_escape hd with ⟨rfl, hkept⟩ | hd
      · exact ⟨hkept.1, hkept.2.1, by
          simpa using fun hf => hforbidden (List.any_eq_true.mpr ⟨d, hc, hf⟩)⟩
      · exact forall_of_all (by decide) d hd

/-- A host is read back: there is nothing left in it to be escaped, and an address is written as it
is read. -/
theorem opaqueHost_of_hostText (h : HostText s) : opaqueHost s = .ok (String.ofList s) := by
  cases h with
  | name h =>
      unfold opaqueHost
      split
      next rest =>
        exact absurd rfl ((h '[' List.mem_cons_self).ne (by decide))
      next =>
        have hnone : s.any isForbidden = false := by
          simpa using fun c hc => (h c hc).2.2
        rw [if_neg (by simp [hnone]), flatMap_escape_of_kept]
        exact fun c hc => ⟨(h c hc).1, (h c hc).2.1, rfl⟩
  | @address groups h =>
      have htext : "[" ++ renderGroups groups ++ "]" =
          String.ofList ('[' :: ((renderGroups groups).toList ++ [']'])) := by
        apply String.toList_inj.mp
        simp
      rw [← htext]
      exact bracketed_of_isAddress h

/-- Characters that part what stands before a path. -/
def partsAuthority (c : Char) : Bool := [' ', '@', '/', '?', '#'].contains c

theorem kept_of_isForbidden (h : Kept isForbidden c) : Kept partsAuthority c := by
  refine ⟨h.1, h.2.1, ?_⟩
  have hforbidden : ∀ d ∈ [' ', '@', '/', '?', '#'], isForbidden d = true :=
    forall_of_all (by decide)
  have hne : ∀ d ∈ [' ', '@', '/', '?', '#'], c ≠ d := fun d hd => h.ne (hforbidden d hd)
  simpa [partsAuthority] using hne

theorem kept_of_isSome (h : (Octets.hexValue? c).isSome = true) : Kept partsAuthority c := by
  have hdigit : ∀ d ∈ [' ', '@', '/', '?', '#'], ¬(Octets.hexValue? d).isSome = true :=
    forall_of_all (by decide)
  have hne : ∀ d ∈ [' ', '@', '/', '?', '#'], c ≠ d := by
    rintro d hd rfl
    exact hdigit c hd h
  obtain ⟨d, hd⟩ := Option.isSome_iff_exists.mp h
  obtain ⟨-, hlower, hupper⟩ := hexValue?_bounds hd
  exact ⟨Char.le_trans (by decide) hlower, Char.le_trans hupper (by decide),
    by simpa [partsAuthority] using hne⟩

theorem HostText.kept (h : HostText s) (hc : c ∈ s) : Kept partsAuthority c := by
  cases h with
  | name h => exact kept_of_isForbidden (h c hc)
  | address h =>
      rcases List.mem_cons.mp hc with rfl | hc
      · decide
      · rcases List.mem_append.mp hc with hc | hc
        · rcases mem_renderGroups hc with rfl | hc
          · decide
          · exact kept_of_isSome hc
        · rw [List.mem_singleton.mp hc]
          decide

theorem endsAuthority_of_kept (h : Kept partsAuthority c) :
    SchemeKind.other.endsAuthority c = false := by
  have hslash := h.ne (d := '/') (by decide)
  have hquery := h.ne (d := '?') (by decide)
  have hfragment := h.ne (d := '#') (by decide)
  simp [SchemeKind.endsAuthority, SchemeKind.isSlash, hslash, hquery, hfragment]

/-! ### In front of a port -/

theorem splitHost_cons (hends : SchemeKind.other.endsAuthority c = false) {bracket : Bool}
    (hcolon : c = ':' → bracket = true) (rest : List Char) :
    splitHost .other bracket (c :: rest) =
      let inside := if c = '[' then true else if c = ']' then false else bracket
      let (host, rest) := splitHost .other inside rest
      (c :: host, rest) := by
  rw [splitHost, if_neg]
  rw [hends, Bool.or_false, Bool.and_eq_true, decide_eq_true_eq, Bool.not_eq_true']
  exact fun h => absurd (hcolon h.1) (by simp [h.2])

theorem splitHost_inside (h : ∀ c ∈ s, c = ':' ∨ (Octets.hexValue? c).isSome = true)
    (rest : List Char) :
    splitHost .other true (s ++ ']' :: ':' :: rest) = (s ++ [']'], ':' :: rest) := by
  induction s with
  | nil => rfl
  | cons c s ih =>
      obtain ⟨hc, hs⟩ := List.forall_mem_cons.mp h
      have hends : SchemeKind.other.endsAuthority c = false := by
        rcases hc with rfl | hc
        · decide
        · exact endsAuthority_of_kept (kept_of_isSome hc)
      have hopen : c ≠ '[' := by
        rintro rfl
        exact absurd hc (by decide)
      have hclose : c ≠ ']' := by
        rintro rfl
        exact absurd hc (by decide)
      rw [List.cons_append, splitHost_cons hends (fun _ => rfl)]
      simp only [if_neg hopen, if_neg hclose, ih hs]
      rfl

/-- In front of a colon a host is found as a whole. An address has colons of its own, which do not
count between the brackets. -/
theorem splitHost_of_hostText (h : HostText s) (rest : List Char) :
    splitHost .other false (s ++ ':' :: rest) = (s, ':' :: rest) := by
  cases h with
  | name h =>
      induction s with
      | nil => rfl
      | cons c s ih =>
          obtain ⟨hc, hs⟩ := List.forall_mem_cons.mp h
          have hends := endsAuthority_of_kept (kept_of_isForbidden hc)
          have hcolon : c ≠ ':' := hc.ne (by decide)
          have hopen : c ≠ '[' := hc.ne (by decide)
          rw [List.cons_append, splitHost_cons hends fun h => absurd h hcolon]
          simp only [if_neg hopen, ite_self, ih hs]
  | address h =>
      rw [List.cons_append, List.append_assoc, splitHost_cons (by decide) (by decide)]
      simp only [if_pos]
      rw [List.singleton_append, splitHost_inside fun c hc => mem_renderGroups hc]

end Switchyard.Url
