import Switchyard.Proofs.Url.Authority
import Switchyard.Settings.Endpoint

/-!
# Switchyard.Proofs.Settings.Endpoint

**Which endpoints are read back from their own text** (`read_back_iff_plain`): all with a host and a
port, and those with a path that means itself in a URL. A URL gives such a path if it gives an
absolute one (`plainPath_of_parse`), but a text that is a path is taken as it is, and `query_lost`
has one that is read as another path.

The two directions need different things. That a plain path comes back is a run of the reader on the
text that was written; that no other path does follows from what the reader gives: a path out of a
URL is plain, so if it is the path that was written, that one was.
-/

namespace Switchyard.Settings.Endpoint

open Files Url

variable {text path host : String} {port : UInt16} {e : Endpoint}

theorem plainScheme_unix : PlainScheme "unix" :=
  ⟨by decide, forall_of_all (by decide), fun _ => rfl⟩

theorem plainScheme_tcp : PlainScheme "tcp" :=
  ⟨by decide, forall_of_all (by decide), fun _ => rfl⟩

/-! ### What is read -/

/-- An endpoint comes from a path, or from a URL of its scheme. One case for each way through the
reader that does not fail. -/
theorem cases_of_parse (h : parse text = .ok e) :
    isAbsolute text = true ∧ e = .unix text ∨
    isAbsolute text = false ∧ ∃ u, Url.parse text = .ok u ∧
      (u.scheme = "unix" ∧ u.path ≠ "" ∧ e = .unix u.path ∨
        u.scheme = "tcp" ∧ ∃ host port, u.host = some host ∧ u.port = some port ∧
          e = .tcp host (UInt16.ofNat port)) := by
  unfold parse at h
  split at h
  next habs =>
    cases h
    exact .inl ⟨habs, rfl⟩
  next habs =>
    split at h
    next => cases h
    next u hu =>
      refine .inr ⟨by simpa using habs, u, hu, ?_⟩
      unfold ofUrl at h
      split at h
      next hscheme =>
        split at h
        next => cases h
        next hpath =>
          cases h
          exact .inl ⟨hscheme, by simpa using hpath, rfl⟩
      next =>
        split at h
        next hscheme =>
          split at h
          next => cases h
          next => cases h
          next hhost hport =>
            cases h
            exact .inr ⟨hscheme, _, _, hhost, hport, rfl⟩
        next => cases h

/-- A host that was read can be read again: the reader of hosts gives only texts that it takes as
they are. -/
theorem host_of_parse (h : parse text = .ok (.tcp host port)) :
    HostText host.toList ∧ host ≠ "" := by
  rcases cases_of_parse h with ⟨-, h⟩ | ⟨-, u, hu, ⟨-, -, h⟩ | ⟨hscheme, name, n, hhost, hport, h⟩⟩
  · cases h
  · cases h
  · cases h
    have hparted := parted_of_parse hu (by rw [hscheme]; decide)
    cases hparted with
    | authority hparts =>
        rw [hhost] at hparts
        exact host_of_parseAuthority hparts
    | rooted hnone => rw [hnone] at hhost; cases hhost
    | bare hnone => rw [hnone] at hhost; cases hhost

/-- A path from the root that a URL gives is plain, since its segments were resolved and its
characters encoded when it was read. A path that is not from the root comes of a URL without
slashes, and its segments are left as they are. -/
theorem plainPath_of_parse (h : parse text = .ok (.unix path)) (hurl : isAbsolute text = false)
    (habs : isAbsolute path = true) : PlainPath path := by
  rcases cases_of_parse h with ⟨htext, -⟩ | ⟨-, u, hu, ⟨hscheme, hne, h⟩ | ⟨-, _, _, -, -, h⟩⟩
  · rw [hurl] at htext
    cases htext
  · cases h
    have hparted := parted_of_parse hu (by rw [hscheme]; decide)
    cases hparted with
    | authority _ hpath =>
        rw [hpath] at hne ⊢
        exact plainPath_of_hierarchicalPath hne
    | rooted _ hpath =>
        rw [hpath] at hne ⊢
        exact plainPath_of_hierarchicalPath hne
    | bare _ hrest hpath =>
        rw [isAbsolute, hpath, decide_eq_true_eq] at habs
        exact absurd habs (head?_opaquePath hrest)
  · cases h

/-! ### What is read of what is written -/

theorem parse_of_slashes {scheme : String} (hplain : PlainScheme scheme)
    (hrelative : isAbsolute text = false) {rest : String} (htext : text = scheme ++ "://" ++ rest) :
    parse text =
      match parseAuthority .other (trimmed rest.toList) with
      | .error e => .error (.url e)
      | .ok (host, port, tail) =>
        ofUrl text ⟨scheme, host, port, hierarchicalPath .other tail⟩ := by
  have hurl := Url.parse_of_slashes hplain rest
  rw [← htext] at hurl
  rw [parse, hrelative, if_neg Bool.false_ne_true, hurl]
  rcases parseAuthority .other (trimmed rest.toList) with e | ⟨host, port, tail⟩
  · rfl
  · rfl

theorem ofUrl_unix (text : String) (host : Option String) (port : Option Nat) (path : String) :
    ofUrl text ⟨"unix", host, port, path⟩ =
      if path = "" then .error (.missingPath text) else .ok (.unix path) := by
  simp [ofUrl]

/-- A path is read back from its URL exactly if it is plain: what the reader gives is always plain,
and what is plain it leaves as it is. -/
theorem read_back_unix_iff (path : String) :
    parse (render (.unix path)) = .ok (.unix path) ↔ PlainPath path := by
  have hrelative : isAbsolute (render (.unix path)) = false := by simp [isAbsolute, render]
  rw [parse_of_slashes plainScheme_unix hrelative rfl]
  constructor
  · intro h
    split at h
    · cases h
    next tail _ =>
      rw [ofUrl_unix] at h
      split at h
      · cases h
      next hne =>
        cases h
        exact plainPath_of_hierarchicalPath hne
  · intro h
    obtain ⟨rest, hrest⟩ := List.head?_eq_some_iff.mp h.absolute
    have hvisible : ∀ c ∈ path.toList, ' ' < c := fun c hc => (h.kept c hc).visible (by decide)
    have hne : path ≠ "" := by
      rintro rfl
      cases h.absolute
    rw [trimmed_of_visible hvisible, hrest, parseAuthority_slash, ← hrest]
    simp only [hierarchicalPath_of_plainPath h, ofUrl_unix, if_neg hne]

/-- A host and a port are read back. No port is left out when it is written, so there is no default
to think of. -/
theorem read_back_tcp (htext : HostText host.toList) (hne : host ≠ "") (port : UInt16) :
    parse (render (.tcp host port)) = .ok (.tcp host port) := by
  have hrelative : isAbsolute (render (.tcp host port)) = false := by simp [isAbsolute, render]
  have hrender : render (.tcp host port) =
      "tcp" ++ "://" ++ (host ++ ":" ++ toString port.toNat) := by
    simp [render, String.append_assoc]
  have hrest : (host ++ ":" ++ toString port.toNat).toList =
      host.toList ++ ':' :: Nat.toDigits 10 port.toNat := by
    simp
  have hvisible : ∀ c ∈ host.toList ++ ':' :: Nat.toDigits 10 port.toNat, ' ' < c :=
    fun c hc => (htext.kept_authority hc).visible (by decide)
  have hport : port.toNat ≤ 65535 := Nat.le_of_lt_succ port.toNat_lt
  rw [parse_of_slashes plainScheme_tcp hrelative hrender, hrest, trimmed_of_visible hvisible,
    parseAuthority_host htext (by simpa using hne) hport]
  simp [ofUrl]

/-- For what was read, a host and a port are always of the kind that is read back; so all depends on
paths. -/
theorem read_back_iff (h : parse text = .ok e) :
    parse e.render = .ok e ↔ ∀ path, e = .unix path → PlainPath path := by
  cases e with
  | unix path =>
      rw [read_back_unix_iff]
      constructor
      · rintro hplain _ ⟨⟩
        exact hplain
      · exact fun hplain => hplain path rfl
  | tcp host port =>
      obtain ⟨htext, hne⟩ := host_of_parse h
      constructor
      · rintro _ _ ⟨⟩
      · exact fun _ => read_back_tcp htext hne port

/-- **An endpoint that was read is read back from its own text exactly if it has a host and a port,
or a path that means itself in a URL.** A path that was read from a URL does so if it is absolute;
one that was read as a path may be any.

Two paths are the same here if their texts are. Compared by their components, of which a `.` is
none, a few more paths are read back: `/a/./b` comes back as `/a/b`, another text for the same
components. -/
theorem read_back_iff_plain (h : parse text = .ok e) :
    (parse e.render = .ok e ↔ ∀ path, e = .unix path → PlainPath path) ∧
      (isAbsolute text = false →
        (parse e.render = .ok e ↔ ∀ path, e = .unix path → isAbsolute path = true)) := by
  have hiff := read_back_iff h
  refine ⟨hiff, fun hurl => hiff.trans ⟨fun hplain path heq => ?_, fun habs path heq => ?_⟩⟩
  · exact decide_eq_true (hplain path heq).absolute
  · exact plainPath_of_parse (heq ▸ h) hurl (habs path heq)

theorem read_back_iff_plain_address :
    parse "tcp://[1:0:0:2::3]:08080" = .ok (.tcp "[1:0:0:2::3]" 8080) ∧
      parse (render (.tcp "[1:0:0:2::3]" 8080)) = .ok (.tcp "[1:0:0:2::3]" 8080) := by
  have h : parse "tcp://[1:0:0:2::3]:08080" = .ok (.tcp "[1:0:0:2::3]" 8080) := by rfl
  exact ⟨h, (read_back_iff_plain h).1.mpr (by simp)⟩

/-- A `.` that is no component of the path is not read back. -/
example : parse "/a/./b" = .ok (.unix "/a/./b") ∧
    parse (render (.unix "/a/./b")) = .ok (.unix "/a/b") := ⟨rfl, rfl⟩

/-- A path with a question mark is written as it is, and what stands behind the mark is a query when
it is read; a path with a blank is not read at all. -/
theorem query_lost :
    parse "/a?b" = .ok (.unix "/a?b") ∧ parse (render (.unix "/a?b")) = .ok (.unix "/a") ∧
      parse "unix:a b" = .ok (.unix "a b") ∧
      parse (render (.unix "a b")) = .error (.url .badCharacter) :=
  ⟨rfl, rfl, rfl, rfl⟩

end Switchyard.Settings.Endpoint
