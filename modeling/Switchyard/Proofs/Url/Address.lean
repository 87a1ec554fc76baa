import Mathlib.Data.List.Induction
import Mathlib.Data.List.TakeWhile
import Switchyard.Url.Address

/-!
# Switchyard.Proofs.Url.Address

**An address of eight groups is read from its own text as itself** (`parseGroups?_renderGroups`),
whichever run of zeros is left out. What is read from any text is such an address
(`isAddress_of_parseGroups?`).

Groups are read one after the other (`groupsAfter_digits`), up to what stands behind them
(`groupsAfter_spell`). That is the end or the gap; the groups that a gap stands for are as many as
are missing (`fillGroups_gap`), and they were zeros (`eq_of_longestRun`).

Reading and writing are recursions of a different kind: the reader counts down from the length of
the text, the writer goes through the groups. So what is said of the reader is said with some fuel
to spare, and `length_le_spell` says that there is enough.
-/

namespace Switchyard.Url

/-! ### Numbers -/

theorem hexValue?_digitChar {d : Nat} (h : d < 16) : Octets.hexValue? d.digitChar = some d :=
  (by decide : ∀ d < 16, Octets.hexValue? d.digitChar = some d) d h

theorem hexValue?_bounds {c : Char} {d : Nat} (h : Octets.hexValue? c = some d) :
    d < 16 ∧ '0' ≤ c ∧ c ≤ 'f' := by
  have hcode : ∀ {a b : Char}, a ≤ b ↔ a.toNat ≤ b.toNat := Iff.rfl
  simp only [Octets.hexValue?, hcode] at h ⊢
  grind

theorem numberOf?_concat (base : Nat) (s : List Char) (c : Char) :
    numberOf? base (s ++ [c]) = (numberOf? base s).bind fun n =>
      (Octets.hexValue? c).bind fun d => if d < base then some (n * base + d) else none := by
  rw [numberOf?, List.foldl_append]
  rfl

/-- A number is read from its digits. By strong induction, since the last digit is split off and the
others are those of the quotient. -/
theorem numberOf?_toDigits {base : Nat} (hbase : 1 < base) (hmax : base ≤ 16) (n : Nat) :
    numberOf? base (Nat.toDigits base n) = some n := by
  have hstep : ∀ (s : List Char) (q d : Nat), numberOf? base s = some q → d < base →
      numberOf? base (s ++ [d.digitChar]) = some (q * base + d) := by
    intro s q d hs hd
    rw [numberOf?_concat, hs, hexValue?_digitChar (Nat.lt_of_lt_of_le hd hmax)]
    exact if_pos hd
  induction n using Nat.strongRecOn with
  | ind n ih =>
      rcases Nat.lt_or_ge n base with hn | hn
      · rw [Nat.toDigits_of_lt_base hn]
        have h := hstep [] 0 n rfl hn
        rwa [Nat.zero_mul, Nat.zero_add] at h
      · have hless : n / base < n := Nat.div_lt_self (by omega) hbase
        rw [Nat.toDigits_of_base_le hbase hn,
          hstep _ _ _ (ih _ hless) (Nat.mod_lt n (by omega)), Nat.div_add_mod']

/-- Hexadecimal digits spell a number, which is as large as there are digits for at most. -/
theorem exists_numberOf? {s : List Char} (h : ∀ c ∈ s, (Octets.hexValue? c).isSome = true) :
    ∃ n < Nat.pow 16 s.length, numberOf? 16 s = some n := by
  induction s using List.reverseRecOn with
  | nil => exact ⟨0, by decide, rfl⟩
  | append_singleton s c ih =>
      obtain ⟨n, hn, hs⟩ := ih fun c hc => h c (List.mem_append_left _ hc)
      obtain ⟨d, hd⟩ := Option.isSome_iff_exists.mp (h c (by simp))
      have hlt := (hexValue?_bounds hd).1
      refine ⟨n * 16 + d, ?_, ?_⟩
      · rw [List.length_append, List.length_singleton]
        show n * 16 + d < Nat.pow 16 s.length * 16
        omega
      · rw [numberOf?_concat, hs, hd]
        exact if_pos hlt

/-! ### What is read -/

/-- Eight groups of 16 bits. -/
structure IsAddress (groups : List Nat) : Prop where
  length_eq : groups.length = 8
  lt : ∀ g ∈ groups, g < 65536

/-- Groups as they are read, with one run at most that is left out. This is the invariant of the
reader; the run stands as `none` among them until the missing groups are filled in. -/
structure Gapped (groups : List (Option Nat)) : Prop where
  lt : ∀ g, some g ∈ groups → g < 65536
  once : groups.count none ≤ 1

theorem exists_of_mapM_eq_some {α β : Type} {f : α → Option β} {xs : List α} {ys : List β}
    (h : xs.mapM f = some ys) {y : β} (hy : y ∈ ys) : ∃ x ∈ xs, f x = some y := by
  induction xs generalizing ys with
  | nil =>
      cases h
      cases hy
  | cons x xs ih =>
      rw [List.mapM_cons] at h
      obtain ⟨z, hz, h⟩ := Option.bind_eq_some_iff.mp h
      obtain ⟨zs, hzs, h⟩ := Option.bind_eq_some_iff.mp h
      cases h
      rcases List.mem_cons.mp hy with rfl | hy
      · exact ⟨x, List.mem_cons_self, hz⟩
      · obtain ⟨x', hx', hf⟩ := ih hzs hy
        exact ⟨x', List.mem_cons_of_mem x hx', hf⟩

theorem decimalByte?_lt {s : List Char} {n : Nat} (h : decimalByte? s = some n) : n < 256 := by
  unfold decimalByte? at h
  split at h
  · cases h
  · cases h
    decide
  · cases h
  · obtain ⟨m, -, hm⟩ := Option.bind_eq_some_iff.mp h
    split at hm
    · cases hm
      assumption
    · cases hm

theorem decimalGroups?_lt {s : List Char} {g h : Nat} (heq : decimalGroups? s = some (g, h)) :
    g < 65536 ∧ h < 65536 := by
  unfold decimalGroups? at heq
  split at heq
  next a b c d hbytes =>
    cases heq
    have hlt : ∀ n ∈ [a, b, c, d], n < 256 := by
      intro n hn
      obtain ⟨part, -, hpart⟩ := exists_of_mapM_eq_some hbytes hn
      exact decimalByte?_lt hpart
    have ha := hlt a (by simp)
    have hb := hlt b (by simp)
    have hc := hlt c (by simp)
    have hd := hlt d (by simp)
    omega
  next => cases heq

theorem Gapped.group {acc : List (Option Nat)} (h : Gapped acc) {g : Nat} (hg : g < 65536) :
    Gapped (some g :: acc) where
  lt n hn := by
    rcases List.mem_cons.mp hn with heq | hn
    · cases heq
      exact hg
    · exact h.lt n hn
  once := by
    rw [List.count_cons_of_ne (by simp)]
    exact h.once

theorem Gapped.gap {acc : List (Option Nat)} (h : Gapped acc) (hnone : none ∉ acc) :
    Gapped (none :: acc) where
  lt n hn := h.lt n ((List.mem_cons.mp hn).resolve_left (by simp))
  once := by simp [List.count_eq_zero.mpr hnone]

theorem Gapped.reverse {acc : List (Option Nat)} (h : Gapped acc) : Gapped acc.reverse where
  lt n hn := h.lt n (List.mem_reverse.mp hn)
  once := by
    rw [List.count_reverse]
    exact h.once

/-- What stands before a colon or at the end is a group. -/
theorem Gapped.digits {acc : List (Option Nat)} (h : Gapped acc) (s : List Char) :
    Gapped (numberOf? 16 ((s.take 4).takeWhile fun c => (Octets.hexValue? c).isSome) :: acc) := by
  have hall : ∀ c ∈ (s.take 4).takeWhile fun c => (Octets.hexValue? c).isSome,
      (Octets.hexValue? c).isSome = true :=
    fun _ hc => List.mem_takeWhile_imp (p := fun c => (Octets.hexValue? c).isSome) hc
  obtain ⟨n, hn, heq⟩ := exists_numberOf? hall
  have hlength := (List.takeWhile_sublist (fun c => (Octets.hexValue? c).isSome)
    (l := s.take 4)).length_le
  have hfour : Nat.pow 16 (List.takeWhile _ (s.take 4)).length ≤ Nat.pow 16 4 :=
    Nat.pow_le_pow_right (by decide) (Nat.le_trans hlength (List.length_take_le 4 s))
  rw [heq]
  exact h.group (Nat.lt_of_lt_of_le hn hfour)

theorem gapped_of_groupsAfter {fuel : Nat} {acc parts : List (Option Nat)} {s : List Char}
    (hacc : Gapped acc) (h : groupsAfter fuel acc s = some parts) : Gapped parts := by
  induction fuel generalizing acc s with
  | zero =>
      cases s with
      | nil =>
          cases h
          exact hacc.reverse
      | cons c s => cases h
  | succ fuel ih =>
      cases s with
      | nil =>
          cases h
          exact hacc.reverse
      | cons c s =>
          rcases eq_or_ne c ':' with rfl | hc
          -- The run that is left out.
          · rw [groupsAfter] at h
            split at h
            · cases h
            · split at h
              · cases h
              next hnone => exact ih (hacc.gap (by simpa using hnone)) h
          · have hgroup : ∀ rest, c :: s = ':' :: rest → False := fun rest heq =>
              hc (List.cons.inj heq).1
            rw [groupsAfter] at h
            on_goal 2 => exact List.cons_ne_nil c s
            on_goal 2 => exact hgroup
            split at h
            · cases h
            · dsimp only at h
              split at h
              -- The last group.
              · cases h
                exact (hacc.digits _).reverse
              -- The last two groups, in decimal.
              · split at h
                · cases h
                · obtain ⟨⟨g, h⟩, heq, rfl⟩ := Option.map_eq_some_iff.mp h
                  obtain ⟨hg, hh⟩ := decimalGroups?_lt heq
                  exact ((hacc.group hg).group hh).reverse
              -- A group with more behind it.
              · split at h
                · cases h
                · exact ih (hacc.digits _) h
              · cases h

/-- A group, or the zeros for a run of them. -/
def fill (k : Nat) : Option Nat → List Nat
  | some g => [g]
  | none => List.replicate k 0

theorem fillGroups_of_mem {parts : List (Option Nat)} (hnone : none ∈ parts)
    (hlength : parts.length ≤ 8) :
    fillGroups parts = some (parts.flatMap (fill (9 - parts.length))) := by
  unfold fillGroups
  rw [if_pos (List.contains_iff_mem.mpr hnone), if_neg (by omega)]
  rfl

theorem fillGroups_of_notMem {parts : List (Option Nat)} (hnone : none ∉ parts)
    (hlength : parts.length = 8) : fillGroups parts = some (parts.filterMap id) := by
  unfold fillGroups
  rw [if_neg fun h => hnone (List.contains_iff_mem.mp h), if_pos hlength]

theorem length_flatMap_fill (k : Nat) (parts : List (Option Nat)) :
    (parts.flatMap (fill k)).length + parts.count none =
      parts.length + parts.count none * k := by
  induction parts with
  | nil => simp
  | cons g parts ih =>
      rw [List.flatMap_cons, List.length_append, List.length_cons]
      cases g with
      | none =>
          rw [fill, List.length_replicate, List.count_cons_self, Nat.succ_mul]
          omega
      | some g =>
          rw [fill, List.length_singleton, List.count_cons_of_ne (by simp)]
          omega

theorem isAddress_of_fillGroups {parts : List (Option Nat)} {groups : List Nat}
    (hgapped : Gapped parts) (h : fillGroups parts = some groups) : IsAddress groups := by
  by_cases hnone : none ∈ parts
  · have hlength : parts.length ≤ 8 := by
      unfold fillGroups at h
      rw [if_pos (List.contains_iff_mem.mpr hnone)] at h
      split at h
      · cases h
      · omega
    rw [fillGroups_of_mem hnone hlength] at h
    cases h
    have honce : parts.count none = 1 :=
      Nat.le_antisymm hgapped.once (List.count_pos_iff.mpr hnone)
    constructor
    · have hcount := length_flatMap_fill (9 - parts.length) parts
      have hone : parts.count none ≤ parts.length := List.count_le_length
      rw [honce] at hcount hone
      omega
    · intro n hn
      obtain ⟨g, hg, hmem⟩ := List.mem_flatMap.mp hn
      cases g with
      | none =>
          rw [List.eq_of_mem_replicate hmem]
          decide
      | some g =>
          rw [List.mem_singleton.mp hmem]
          exact hgapped.lt g hg
  · have hlength : parts.length = 8 := by
      unfold fillGroups at h
      rw [if_neg fun h => hnone (List.contains_iff_mem.mp h)] at h
      split at h
      · assumption
      · cases h
    rw [fillGroups_of_notMem hnone hlength] at h
    cases h
    constructor
    · rw [List.length_filterMap_eq_countP, List.countP_eq_length.mpr, hlength]
      rintro (_ | g) hg
      · exact absurd hg hnone
      · rfl
    · intro n hn
      obtain ⟨g, hg, rfl⟩ := List.mem_filterMap.mp hn
      exact hgapped.lt n hg

/-- What is read is an address. -/
theorem isAddress_of_parseGroups? {s : List Char} {groups : List Nat}
    (h : parseGroups? s = some groups) : IsAddress groups := by
  unfold parseGroups? at h
  split at h
  · obtain ⟨parts, hparts, hfill⟩ := Option.bind_eq_some_iff.mp h
    exact isAddress_of_fillGroups
      (gapped_of_groupsAfter ⟨by simp, by simp⟩ hparts) hfill
  · cases h
  · cases h
  · cases h
  · obtain ⟨parts, hparts, hfill⟩ := Option.bind_eq_some_iff.mp h
    exact isAddress_of_fillGroups
      (gapped_of_groupsAfter ⟨by simp, by simp⟩ hparts) hfill

/-! ### What is written -/

/-- Groups with colons between them. -/
def spell (groups : List Nat) : List Char :=
  [':'].intercalate (groups.map (Nat.toDigits 16))

theorem spell_cons (g : Nat) {groups : List Nat} (h : groups ≠ []) :
    spell (g :: groups) = Nat.toDigits 16 g ++ ':' :: spell groups := by
  obtain ⟨g', groups, rfl⟩ := List.exists_cons_of_ne_nil h
  rw [spell, List.map_cons, List.map_cons, List.intercalate_cons_cons, List.append_assoc]
  rfl

theorem spell_singleton (g : Nat) : spell [g] = Nat.toDigits 16 g :=
  List.intercalate_singleton

theorem toList_joined (groups : List Nat) :
    (":".intercalate (groups.map renderGroup)).toList = spell groups := by
  rw [String.toList_intercalate, List.map_map]
  congr 1
  exact List.map_congr_left fun g _ => String.toList_ofList

theorem isSome_of_mem_toDigits {g : Nat} {c : Char} (h : c ∈ Nat.toDigits 16 g) :
    (Octets.hexValue? c).isSome = true := by
  have hnumber : ∀ (s : List Char) (n : Nat), numberOf? 16 s = some n →
      ∀ c ∈ s, (Octets.hexValue? c).isSome = true := by
    intro s
    induction s using List.reverseRecOn with
    | nil => simp
    | append_singleton s c ih =>
        intro n hn
        rw [numberOf?_concat] at hn
        obtain ⟨m, hm, hn⟩ := Option.bind_eq_some_iff.mp hn
        obtain ⟨d, hd, -⟩ := Option.bind_eq_some_iff.mp hn
        intro c' hc'
        rcases List.mem_append.mp hc' with hc' | hc'
        · exact ih m hm c' hc'
        · rw [List.mem_singleton.mp hc', hd]
          rfl
  exact hnumber _ g (numberOf?_toDigits (by decide) (by decide) g) c h

/-- A group has a digit, and no colon stands in front of it. -/
theorem toDigits_eq_cons (g : Nat) :
    ∃ c s, Nat.toDigits 16 g = c :: s ∧ c ≠ ':' := by
  obtain ⟨c, s, heq⟩ := List.exists_cons_of_ne_nil (Nat.toDigits_ne_nil (n := g) (b := 16))
  refine ⟨c, s, heq, ?_⟩
  rintro rfl
  have h := isSome_of_mem_toDigits (g := g) (c := ':') (by simp [heq])
  cases h

theorem spell_ne_nil {groups : List Nat} (h : groups ≠ []) : spell groups ≠ [] := by
  obtain ⟨g, groups, rfl⟩ := List.exists_cons_of_ne_nil h
  rcases eq_or_ne groups [] with rfl | hne
  · rw [spell_singleton]
    exact Nat.toDigits_ne_nil
  · simp [spell_cons g hne]

/-- The digits of a group are all that is taken for a group. -/
theorem takeWhile_toDigits {g : Nat} (hg : g < 65536) {rest : List Char}
    (hrest : ∀ c ∈ rest.head?, (Octets.hexValue? c).isSome = false) :
    ((Nat.toDigits 16 g ++ rest).take 4).takeWhile (fun c => (Octets.hexValue? c).isSome) =
      Nat.toDigits 16 g := by
  have hlength : (Nat.toDigits 16 g).length ≤ 4 :=
    (Nat.length_toDigits_le_iff (by decide) (by decide)).mpr hg
  rw [List.take_append, List.take_of_length_le hlength,
    List.takeWhile_append_of_pos fun c hc => isSome_of_mem_toDigits hc]
  cases rest with
  | nil => simp
  | cons c rest =>
      cases 4 - (Nat.toDigits 16 g).length with
      | zero => simp
      | succ k => simp [hrest c rfl]

/-! ### Read back -/

variable {fuel g : Nat} {acc : List (Option Nat)} {rest : List Char} {groups : List Nat}

/-- A group is read up to the colon behind it, or up to the end. -/
theorem groupsAfter_digits (hg : g < 65536) (hacc : acc.length < 8)
    (hrest : ∀ c ∈ rest.head?, c = ':') :
    groupsAfter (fuel + 1) acc (Nat.toDigits 16 g ++ rest) =
      if rest = [] then some (some g :: acc).reverse
      else if rest.tail = [] then none else groupsAfter fuel (some g :: acc) rest.tail := by
  obtain ⟨c, s, heq, hc⟩ := toDigits_eq_cons g
  have htake := takeWhile_toDigits hg fun c hc => by rw [hrest c hc]; decide
  have hnumber : numberOf? 16 (Nat.toDigits 16 g) = some g :=
    numberOf?_toDigits (by decide) (by decide) g
  have hdrop : (Nat.toDigits 16 g ++ rest).drop (Nat.toDigits 16 g).length = rest :=
    List.drop_left
  rw [heq, List.cons_append] at htake hdrop
  rw [heq] at hnumber
  rw [heq, List.cons_append, groupsAfter, if_neg (by omega)]
  · dsimp only
    rw [htake, hdrop, hnumber]
    cases rest with
    | nil => rfl
    | cons c rest =>
        rw [hrest c rfl]
        cases rest <;> rfl
  · simp
  · simp [hc]

/-- Groups are read up to the colon behind them, or up to the end. By induction on the groups, each
of which takes one unit of fuel. -/
theorem groupsAfter_spell (hne : groups ≠ []) (hlt : ∀ g ∈ groups, g < 65536)
    (hacc : acc.length + groups.length ≤ 8) (hrest : ∀ c ∈ rest.head?, c = ':') :
    groupsAfter (fuel + groups.length) acc (spell groups ++ rest) =
      if rest = [] then some (acc.reverse ++ groups.map some)
      else if rest.tail = [] then none
      else groupsAfter fuel ((groups.map some).reverse ++ acc) rest.tail := by
  induction groups generalizing acc with
  | nil => exact absurd rfl hne
  | cons g groups ih =>
      have hg := hlt g List.mem_cons_self
      rw [List.length_cons] at hacc
      rcases eq_or_ne groups [] with rfl | hmore
      · rw [spell_singleton]
        exact (groupsAfter_digits hg (by omega) hrest).trans (by simp)
      · rw [spell_cons g hmore, List.append_assoc, List.length_cons, ← Nat.add_assoc,
          List.cons_append, groupsAfter_digits hg (by omega) (by simp), if_neg (by simp),
          List.tail_cons, if_neg (by simp [spell_ne_nil hmore]),
          ih hmore (fun g hg => hlt g (List.mem_cons_of_mem _ hg))
            (by rw [List.length_cons]; omega)]
        simp

/-- The groups up to the end are read. -/
theorem groupsAfter_end (hlt : ∀ g ∈ groups, g < 65536) (hacc : acc.length + groups.length ≤ 8)
    (hfuel : groups.length ≤ fuel) :
    groupsAfter fuel acc (spell groups) = some (acc.reverse ++ groups.map some) := by
  obtain ⟨fuel, rfl⟩ := Nat.exists_eq_add_of_le' hfuel
  rcases eq_or_ne groups [] with rfl | hne
  · rw [List.map_nil, List.append_nil]
    exact groupsAfter.eq_1 ..
  · have h : groupsAfter (fuel + groups.length) acc (spell groups ++ []) = _ :=
      groupsAfter_spell hne hlt hacc (by simp)
    rwa [List.append_nil, if_pos rfl] at h

theorem length_le_spell (groups : List Nat) : groups.length ≤ (spell groups).length := by
  induction groups with
  | nil => exact Nat.zero_le _
  | cons g groups ih =>
      rcases eq_or_ne groups [] with rfl | hne
      · rw [spell_singleton]
        exact List.length_pos_iff.mpr Nat.toDigits_ne_nil
      · rw [spell_cons g hne, List.length_append, List.length_cons, List.length_cons]
        omega

/-- An address that begins with a group. -/
theorem parseGroups?_spell (hne : groups ≠ []) (hlt : ∀ g ∈ groups, g < 65536)
    (hlength : groups.length ≤ 8) (hlong : 1 < (spell groups ++ rest).length)
    (hrest : ∀ c ∈ rest.head?, c = ':') :
    parseGroups? (spell groups ++ rest) =
      (if rest = [] then some (groups.map some)
      else if rest.tail = [] then none
      else groupsAfter ((spell groups ++ rest).length + 1 - groups.length)
        (groups.map some).reverse rest.tail).bind fillGroups := by
  have hparse : parseGroups? (spell groups ++ rest) =
      (groupsAfter ((spell groups ++ rest).length + 1) [] (spell groups ++ rest)).bind
        fillGroups := by
    obtain ⟨g, groups, rfl⟩ := List.exists_cons_of_ne_nil hne
    obtain ⟨c, s, heq, hc⟩ := toDigits_eq_cons g
    have hhead : ∃ s, spell (g :: groups) ++ rest = c :: s := by
      rcases eq_or_ne groups [] with rfl | hmore
      · exact ⟨s ++ rest, by rw [spell_singleton, heq, List.cons_append]⟩
      · exact ⟨_, by rw [spell_cons g hmore, heq, List.cons_append, List.cons_append]⟩
    obtain ⟨s, hs⟩ := hhead
    rw [hs] at hlong ⊢
    unfold parseGroups?
    split
    next heq => exact absurd (List.cons.inj heq).1 hc
    next heq => exact absurd (List.cons.inj heq).1 hc
    next heq => cases heq
    next heq =>
      rw [heq] at hlong
      exact absurd hlong (Nat.lt_irrefl 1)
    next => rfl
  have hfuel : (spell groups ++ rest).length + 1 =
      (spell groups ++ rest).length + 1 - groups.length + groups.length := by
    have := length_le_spell groups
    rw [List.length_append]
    omega
  rw [hparse]
  conv_lhs => rw [hfuel]
  rw [groupsAfter_spell hne hlt (by simpa using hlength) hrest]
  simp

/-! ### The run that is left out -/

theorem longestRun_le (groups : List Nat) :
    (longestRun groups).2 ≤ zeroRun (groups.drop (longestRun groups).1) := by
  have hstep : ∀ (places : List Nat) (best : Nat × Nat),
      best.2 ≤ zeroRun (groups.drop best.1) →
      let found := places.foldl (fun best i =>
        let n := zeroRun (groups.drop i)
        if best.2 < n then (i, n) else best) best
      found.2 ≤ zeroRun (groups.drop found.1) := by
    intro places
    induction places with
    | nil => exact fun _ h => h
    | cons i places ih =>
        intro best hbest
        rw [List.foldl_cons]
        apply ih
        dsimp only
        split
        · exact Nat.le_refl _
        · exact hbest
  exact hstep _ (0, 0) (Nat.zero_le _)

theorem take_of_le_zeroRun {groups : List Nat} {n : Nat} (h : n ≤ zeroRun groups) :
    groups.take n = List.replicate n 0 := by
  induction n generalizing groups with
  | zero => rfl
  | succ n ih =>
      cases groups with
      | nil => cases h
      | cons g groups =>
          unfold zeroRun at h
          rw [List.takeWhile_cons] at h
          split at h
          next hg =>
            rw [List.take_succ_cons, ih (Nat.le_of_succ_le_succ h), of_decide_eq_true hg]
            rfl
          next => cases h

/-- What stands before the run, the run, and what stands behind it. The run is of zeros, so nothing
is lost when it is left out. -/
theorem eq_of_longestRun {groups : List Nat} {start n : Nat}
    (h : longestRun groups = (start, n)) :
    groups = groups.take start ++ (List.replicate n 0 ++ groups.drop (start + n)) := by
  have hle := longestRun_le groups
  rw [h] at hle
  rw [← take_of_le_zeroRun hle, ← List.drop_drop, List.take_append_drop, List.take_append_drop]

/-- In place of the gap come as many zeros as groups are missing. -/
theorem fillGroups_gap {front back : List Nat} (h : front.length + back.length < 8) :
    fillGroups (front.map some ++ none :: back.map some) =
      some (front ++ (List.replicate (8 - (front.length + back.length)) 0 ++ back)) := by
  have hfill : ∀ (k : Nat) (gs : List Nat), (gs.map some).flatMap (fill k) = gs := by
    intro k gs
    induction gs with
    | nil => rfl
    | cons g gs ih => rw [List.map_cons, List.flatMap_cons, ih, fill, List.singleton_append]
  have hlength : (front.map some ++ none :: back.map some).length =
      front.length + back.length + 1 := by
    simp
    omega
  have hzeros : 9 - (front.length + back.length + 1) = 8 - (front.length + back.length) := by
    omega
  rw [fillGroups_of_mem (by simp) (by omega), hlength, hzeros, List.flatMap_append,
    List.flatMap_cons, hfill, hfill, fill]

/-- An address with a run that is left out. -/
theorem parseGroups?_gap {front back : List Nat} (hfront : ∀ g ∈ front, g < 65536)
    (hback : ∀ g ∈ back, g < 65536) (hlength : front.length + back.length < 8) :
    parseGroups? (spell front ++ ':' :: ':' :: spell back) =
      some (front ++ (List.replicate (8 - (front.length + back.length)) 0 ++ back)) := by
  rw [← fillGroups_gap hlength]
  rcases eq_or_ne front [] with rfl | hne
  · show (groupsAfter ((spell back).length + 1) [none] (spell back)).bind fillGroups = _
    have hfuel := length_le_spell back
    rw [groupsAfter_end hback (by simp at hlength ⊢; omega) (by omega)]
    rfl
  · have hlong : 1 < (spell front ++ ':' :: ':' :: spell back).length := by
      simp
      omega
    rw [parseGroups?_spell hne hfront (by omega) hlong (by simp), if_neg (by simp),
      if_neg (by simp), List.tail_cons]
    -- One step reads the gap, and the groups behind it need one step each.
    have hfuel : (spell front ++ ':' :: ':' :: spell back).length + 1 - front.length =
        (spell front ++ ':' :: spell back).length + 1 - front.length + 1 := by
      have := length_le_spell front
      simp
      omega
    have hnone : ((front.map some).reverse.contains none) = false := by simp
    rw [hfuel, groupsAfter, if_neg (by simp; omega), if_neg (by rw [hnone]; decide),
      groupsAfter_end hback (by simp; omega)]
    · simp
    · have := length_le_spell front
      have := length_le_spell back
      simp
      omega

/-- An address is read back. The cases are those of the writer: no run is left out, or one is;
before it and behind it there may be no groups at all. -/
theorem parseGroups?_renderGroups {groups : List Nat} (h : IsAddress groups) :
    parseGroups? (renderGroups groups).toList = some groups := by
  have hlength := h.length_eq
  have hne : groups ≠ [] := by
    rintro rfl
    cases hlength
  unfold renderGroups
  rcases hrun : longestRun groups with ⟨start, n⟩
  dsimp only
  split
  next =>
    have hlong : 1 < (spell groups ++ []).length := by
      have := length_le_spell groups
      rw [List.append_nil]
      omega
    have hparse : parseGroups? (spell groups ++ []) = _ :=
      parseGroups?_spell hne h.lt (by omega) hlong (by simp)
    rw [List.append_nil, if_pos rfl] at hparse
    have hnone : none ∉ groups.map some := by simp
    rw [toList_joined, hparse, Option.bind_some,
      fillGroups_of_notMem hnone (by rw [List.length_map, hlength]), List.filterMap_map]
    simp
  next hn =>
    have hparts := eq_of_longestRun hrun
    have hsum := congrArg List.length hparts
    rw [List.length_append, List.length_append, List.length_replicate, hlength] at hsum
    have hfront : ∀ g ∈ groups.take start, g < 65536 :=
      fun g hg => h.lt g (List.mem_of_mem_take hg)
    have hback : ∀ g ∈ groups.drop (start + n), g < 65536 :=
      fun g hg => h.lt g (List.mem_of_mem_drop hg)
    have hparse := parseGroups?_gap hfront hback (by omega)
    have hzeros : 8 - ((groups.take start).length + (groups.drop (start + n)).length) = n := by
      omega
    rw [hzeros, ← hparts] at hparse
    rw [String.toList_append, String.toList_append, toList_joined, toList_joined,
      List.append_assoc]
    exact hparse

theorem mem_spell {c : Char} (h : c ∈ spell groups) :
    c = ':' ∨ (Octets.hexValue? c).isSome = true := by
  induction groups with
  | nil => cases h
  | cons g groups ih =>
      rcases eq_or_ne groups [] with rfl | hne
      · rw [spell_singleton] at h
        exact .inr (isSome_of_mem_toDigits h)
      · rw [spell_cons g hne] at h
        rcases List.mem_append.mp h with h | h
        · exact .inr (isSome_of_mem_toDigits h)
        · exact (List.mem_cons.mp h).elim .inl ih

/-- An address is written in digits and colons. -/
theorem mem_renderGroups {c : Char} (h : c ∈ (renderGroups groups).toList) :
    c = ':' ∨ (Octets.hexValue? c).isSome = true := by
  unfold renderGroups at h
  rcases hrun : longestRun groups with ⟨start, n⟩
  rw [hrun] at h
  dsimp only at h
  split at h
  · rw [toList_joined] at h
    exact mem_spell h
  · rw [String.toList_append, String.toList_append, toList_joined, toList_joined] at h
    rcases List.mem_append.mp h with h | h
    · rcases List.mem_append.mp h with h | h
      · exact mem_spell h
      · exact .inl (by simpa using h)
    · exact mem_spell h

end Switchyard.Url
