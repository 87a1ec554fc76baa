import Switchyard.Proofs.Url.Path

/-!
# Switchyard.Proofs.Url.Authority

**A URL with two slashes behind a scheme that is not well known is read as its host, its port and
its path** (`parse_of_slashes`). Without a host all is path (`parseAuthority_slash`); a host and a
port that were read are read again (`parseAuthority_host`). `Parted` has the ways in which the parts
of any such URL come about.

Blanks and control characters at the ends of a text are dropped, and tabs and line ends everywhere,
before anything else is done with it. A scheme and the slashes behind it have none of these, so they
are left as they are and only what follows is trimmed (`cleaned_append`).
-/

namespace Switchyard.Url

variable {host scheme : String} {port : Option Nat} {s rest : List Char}

/-! ### Ports -/

theorem parsePort_toDigits {n : Nat} (h : n ≤ 65535) :
    parsePort (Nat.toDigits 10 n) = .ok (some n, []) := by
  have hdigits : (Nat.toDigits 10 n).takeWhile Char.isDigit = Nat.toDigits 10 n :=
    List.takeWhile_eq_self_iff.mpr fun c hc =>
      Nat.isDigit_of_mem_toDigits (by decide) (by decide) hc
  have hnumber : numberOf? 10 (Nat.toDigits 10 n) = some n :=
    numberOf?_toDigits (by decide) (by decide) n
  have hne : (Nat.toDigits 10 n).isEmpty = false := by simp [Nat.toDigits_ne_nil]
  unfold parsePort
  rw [hdigits]
  simp [hnumber, hne, Nat.not_lt.mpr h]

/-! ### Hosts and ports -/

theorem parseAuthority_slash (rest : List Char) :
    parseAuthority .other ('/' :: rest) = .ok (none, none, '/' :: rest) := by
  rfl

theorem dropCredentials_of_kept (h : ∀ c ∈ s, Kept partsAuthority c) :
    dropCredentials .other s = .ok (false, s) := by
  have hfront : (s.takeWhile fun c => !SchemeKind.other.endsAuthority c) = s :=
    List.takeWhile_eq_self_iff.mpr fun c hc => by simp [endsAuthority_of_kept (h c hc)]
  have htail : s.reverse.takeWhile (fun c => decide (c ≠ '@')) = s.reverse :=
    List.takeWhile_eq_self_iff.mpr fun c hc => by
      simpa using (h c (List.mem_reverse.mp hc)).ne (d := '@') (by decide)
  unfold dropCredentials
  simp only [hfront, htail, List.length_reverse, if_pos]

theorem kept_of_isDigit {c : Char} (h : c.isDigit = true) : Kept partsAuthority c := by
  have hrange : '0' ≤ c ∧ c ≤ '9' := by
    rw [Char.isDigit, Bool.and_eq_true, decide_eq_true_eq, decide_eq_true_eq] at h
    exact h
  apply kept_of_isSome
  rw [Octets.hexValue?, if_pos hrange]
  rfl

theorem HostText.kept_authority (h : HostText s) {n : Nat} {c : Char}
    (hc : c ∈ s ++ ':' :: Nat.toDigits 10 n) : Kept partsAuthority c := by
  rcases List.mem_append.mp hc with hc | hc
  · exact h.kept hc
  · rcases List.mem_cons.mp hc with rfl | hc
    · decide
    · exact kept_of_isDigit (Nat.isDigit_of_mem_toDigits (by decide) (by decide) hc)

/-- A host and a port are read as they are written: the host has no character that would end it
early, and the port has at most the largest number that is taken. -/
theorem parseAuthority_host {text : List Char} (htext : HostText text) (hne : text ≠ []) {n : Nat}
    (hn : n ≤ 65535) :
    parseAuthority .other (text ++ ':' :: Nat.toDigits 10 n) =
      .ok (some (String.ofList text), some n, []) := by
  have hkept : ∀ c ∈ text ++ ':' :: Nat.toDigits 10 n, Kept partsAuthority c :=
    fun c hc => htext.kept_authority hc
  have hempty : String.ofList text ≠ "" := by simpa using hne
  simp [parseAuthority, bind, Except.bind, pure, Except.pure, dropCredentials_of_kept hkept,
    splitHost_of_hostText htext, opaqueHost_of_hostText htext, hempty, parsePort_toDigits hn]

/-- What is given as a host was read as one. All that the reader does after it has the host may fail
but does not change it. -/
theorem exists_of_parseAuthority {found : Option String}
    (h : parseAuthority .other s = .ok (found, port, rest)) :
    ∃ name text, opaqueHost name = .ok text ∧ found = if text = "" then none else some text := by
  have hthrow : ∀ {α : Type} (e : Error), (throw e : Except Error α) = .error e := fun _ => rfl
  unfold parseAuthority at h
  cases hdrop : dropCredentials .other s with
  | error e =>
      rw [hdrop] at h
      cases h
  | ok dropped =>
      obtain ⟨credentials, s⟩ := dropped
      cases hhost : opaqueHost (splitHost .other false s).1 with
      | error e => simp [hdrop, hhost, bind, Except.bind] at h
      | ok text =>
          refine ⟨_, text, hhost, ?_⟩
          simp only [hdrop, hhost, bind, Except.bind, pure, Except.pure, hthrow,
            String.isEmpty_iff, reduceCtorEq, false_and, if_false, if_true] at h
          -- What is left are errors, and results with this host.
          generalize (if text = "" then none else some text) = host at h ⊢
          repeat' split at h
          all_goals cases h
          all_goals rfl

theorem host_of_parseAuthority (h : parseAuthority .other s = .ok (some host, port, rest)) :
    HostText host.toList ∧ host ≠ "" := by
  obtain ⟨name, text, hhost, hfound⟩ := exists_of_parseAuthority h
  split at hfound
  next => cases hfound
  next hne =>
    cases hfound
    exact ⟨hostText_of_opaqueHost hhost, hne⟩

/-! ### Blanks and control characters -/

/-- What counts of a text that has something in front of it. -/
def trimmed (s : List Char) : List Char :=
  (s.reverse.dropWhile isEdge).reverse.filter fun c => c ≠ '\t' ∧ c ≠ '\n' ∧ c ≠ '\r'

theorem dropWhile_isEdge (h : ∀ c ∈ s, ' ' < c) : s.dropWhile isEdge = s := by
  cases s with
  | nil => rfl
  | cons c s =>
      have hc : isEdge c = false := by
        simpa [isEdge] using h c List.mem_cons_self
      rw [List.dropWhile_cons, hc]
      rfl

theorem filter_of_visible (h : ∀ c ∈ s, ' ' < c) :
    (s.filter fun c => c ≠ '\t' ∧ c ≠ '\n' ∧ c ≠ '\r') = s := by
  refine List.filter_eq_self.mpr fun c hc => ?_
  have hne : ∀ d, d ≤ ' ' → c ≠ d := by
    rintro d hd rfl
    exact absurd hd (Char.not_le.mpr (h c hc))
  simpa using ⟨hne '\t' (by decide), hne '\n' (by decide), hne '\r' (by decide)⟩

theorem trimmed_of_visible (h : ∀ c ∈ s, ' ' < c) : trimmed s = s := by
  rw [trimmed, dropWhile_isEdge fun c hc => h c (List.mem_reverse.mp hc), List.reverse_reverse,
    filter_of_visible h]

/-- Trimming passes over a visible front. It is asked to be there: with nothing in front, blanks at
the beginning would be dropped as well. -/
theorem cleaned_append {front : List Char} (hne : front ≠ []) (h : ∀ c ∈ front, ' ' < c) :
    cleaned (front ++ s) = front ++ trimmed s := by
  have hfront : (front ++ s).dropWhile isEdge = front ++ s := by
    obtain ⟨c, front, rfl⟩ := List.exists_cons_of_ne_nil hne
    have hc : isEdge c = false := by simpa [isEdge] using h c List.mem_cons_self
    rw [List.cons_append, List.dropWhile_cons, hc]
    rfl
  have hback : (front ++ s).reverse.dropWhile isEdge =
      s.reverse.dropWhile isEdge ++ front.reverse := by
    rw [List.reverse_append, List.dropWhile_append,
      dropWhile_isEdge fun c hc => h c (List.mem_reverse.mp hc)]
    split
    next hempty => rw [List.isEmpty_iff.mp hempty, List.nil_append]
    next => rfl
  rw [cleaned, hfront, hback, List.reverse_append, List.reverse_reverse, List.filter_append,
    filter_of_visible h, trimmed]

/-! ### The whole URL -/

/-- A name that is read as a scheme, and one that is not well known. The rules for hosts and paths
are simpler for such a scheme, and the two schemes of endpoints are of this kind. -/
structure PlainScheme (scheme : String) : Prop where
  kind : SchemeKind.of scheme = .other
  visible : ∀ c ∈ scheme.toList, ' ' < c
  splits : ∀ rest, splitScheme (scheme.toList ++ ':' :: rest) = some (scheme, rest)

/-- A URL with a scheme that is not well known, and with two slashes. -/
theorem parse_of_slashes (h : PlainScheme scheme) (text : String) :
    parse (scheme ++ "://" ++ text) =
      match parseAuthority .other (trimmed text.toList) with
      | .error e => .error e
      | .ok (host, port, rest) => .ok ⟨scheme, host, port, hierarchicalPath .other rest⟩ := by
  have htext : (scheme ++ "://" ++ text).toList =
      (scheme.toList ++ ':' :: '/' :: ['/']) ++ text.toList := by
    simp
  have hvisible : ∀ c ∈ scheme.toList ++ ':' :: '/' :: ['/'], ' ' < c := by
    intro c hc
    rcases List.mem_append.mp hc with hc | hc
    · exact h.visible c hc
    · exact forall_of_all (by decide) c hc
  rw [parse, htext, cleaned_append (by simp) hvisible, List.append_assoc, List.cons_append,
    h.splits]
  rcases hparts : parseAuthority .other (trimmed text.toList) with e | ⟨host, port, rest⟩
  all_goals simp only [parseAfterScheme, h.kind, List.cons_append, List.nil_append, hparts]

theorem scheme_of_parseAfterScheme {u : Url} (h : parseAfterScheme scheme s = .ok u) :
    u.scheme = scheme := by
  simp only [parseAfterScheme] at h
  repeat' split at h
  all_goals cases h
  all_goals rfl

/-- How the parts of a URL with a scheme that is not well known can come about: there are two
slashes and an authority, one slash and a path from the root, or neither. -/
inductive Parted (u : Url) : Prop
  | authority {s rest : List Char} (hparts : parseAuthority .other s = .ok (u.host, u.port, rest))
      (hpath : u.path = hierarchicalPath .other rest)
  | rooted {rest : List Char} (hhost : u.host = none) (hpath : u.path = hierarchicalPath .other rest)
  | bare {rest : List Char} (hhost : u.host = none) (hrest : rest.head? ≠ some '/')
      (hpath : u.path = opaquePath rest)

theorem parted_of_parse {text : String} {u : Url} (h : parse text = .ok u)
    (hkind : SchemeKind.of u.scheme = .other) : Parted u := by
  unfold parse at h
  split at h
  next scheme rest hsplit =>
    rw [scheme_of_parseAfterScheme h] at hkind
    simp only [parseAfterScheme, hkind] at h
    split at h
    next hspecial => cases hspecial
    next hfile => cases hfile
    next hfile _ => cases hfile
    next =>
      split at h
      next => cases h
      next hparts =>
        cases h
        exact .authority hparts rfl
    next rest _ _ =>
      cases h
      exact @Parted.rooted _ ('/' :: rest) rfl rfl
    next hslash =>
      cases h
      refine .bare rfl (fun hhead => ?_) rfl
      obtain ⟨more, heq⟩ := List.head?_eq_some_iff.mp hhead
      exact hslash more heq
  next => cases h

end Switchyard.Url
