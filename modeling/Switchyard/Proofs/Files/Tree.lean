import Switchyard.Files.Tree

/-!
# Switchyard.Proofs.Files.Tree

**Making directories adds directories, and does nothing else** (`makeDirectories_grows`).

* `Grows` — every place holds what it held, or was free and holds a new directory. Paths that lead
  somewhere still lead there in a tree that has grown (`Walks.grows`).
* `Makes` — what making a directory and all above it can come to, with one rule for each way
  through the recursion. All that is said of the result is an induction over it: it is a directory
  if the operation succeeds (`Makes.isDirectory`), and something else is in the way if the operation
  says that the path is taken (`Makes.blocks`).

Looking up a path is a recursion with fuel, because links may lead in circles. `Walks` is the same
without fuel: it says where names lead and in how many steps, and `Walks.walk_eq` that the recursion
finds this whenever its fuel is not less than the steps. So what is proved by induction on `Walks`
never has to do with the limit on links, and the limit is compared with a number of steps where a
path is looked up as a whole.

* `Tries` — what making one directory can come to. A directory that is there already counts as made.
-/

namespace Switchyard.Files.Tree

variable {t t' : Tree} {mode fuel : Nat} {place q : Place} {path : String}

/-! ### What a tree holds -/

/-- A place holds what was put there last, and all others hold what they held. -/
theorem get?_put (t : Tree) (place : Place) (n : Node) (q : Place) :
    (t.put place n).get? q = if q = place then some n else t.get? q := by
  unfold put get?
  by_cases hq : q = place
  · subst hq
    rw [if_pos rfl, List.find?_cons_of_pos (by simp)]
  · have hfind : (t.filter (·.1 ≠ place)).find? (·.1 = q) = t.find? (·.1 = q) := by
      rw [List.find?_filter]
      congr 1
      funext m
      by_cases hm : m.1 = q
      · simp [hm, hq]
      · simp [hm]
    rw [if_neg hq, List.find?_cons_of_neg (by simpa using Ne.symm hq), hfind]

/-- Every place of `t` holds in `t'` what it held, and what is new are directories with these
permission bits. Nothing is removed, replaced or given other bits. -/
def Grows (mode : Nat) (t t' : Tree) : Prop :=
  ∀ place, t'.get? place = t.get? place ∨
    t.get? place = none ∧ t'.get? place = some (.directory mode)

theorem Grows.refl (mode : Nat) (t : Tree) : Grows mode t t :=
  fun _ => .inl rfl

theorem Grows.get? {n : Node} (h : Grows mode t t') (hn : t.get? place = some n) :
    t'.get? place = some n := by
  rcases h place with heq | ⟨hfree, -⟩
  · rw [heq, hn]
  · rw [hfree] at hn
    cases hn

theorem Grows.trans {t'' : Tree} (h : Grows mode t t') (h' : Grows mode t' t'') :
    Grows mode t t'' := by
  intro place
  rcases h place with heq | ⟨hfree, hnew⟩
  · rw [← heq]
    exact h' place
  · exact .inr ⟨hfree, h'.get? hnew⟩

theorem grows_put (h : t.get? place = none) : Grows mode t (t.put place (.directory mode)) := by
  intro q
  rw [get?_put]
  by_cases hq : q = place
  · subst hq
    rw [if_pos rfl]
    exact .inr ⟨h, rfl⟩
  · rw [if_neg hq]
    exact .inl rfl

/-! ### Where paths lead -/

variable {toTarget : Bool} {names rest : List String} {name target : String} {steps : Nat}

/-- A name can be looked up where a path has come to: it is a directory, and the name is not too
long. It is asked for `.` and `..` as well. -/
structure Enters (t : Tree) (place : Place) (name : String) : Prop where
  directory : ∃ n, t.get? place = some n ∧ n.holdsOthers = true
  short : name.utf8ByteSize ≤ maxName

/-- Where names lead to from a place, and in how many steps. The names that a link leads to are put
in front of those behind it, so that a step does not always leave fewer names. -/
inductive Walks (t : Tree) (toTarget : Bool) : Nat → Place → List String → Place → Prop
  | done (place : Place) : Walks t toTarget 1 place [] place
  | self {steps : Nat} {place q : Place} {rest : List String} (henter : t.Enters place ".")
      (h : Walks t toTarget steps place rest q) : Walks t toTarget (steps + 1) place ("." :: rest) q
  | up {steps : Nat} {place q : Place} {rest : List String} (henter : t.Enters place "..")
      (h : Walks t toTarget steps place.dropLast rest q) :
      Walks t toTarget (steps + 1) place (".." :: rest) q
  /-- A link at the end that is not followed. -/
  | stop {place : Place} {name target : String} (henter : t.Enters place name)
      (hname : name ≠ "." ∧ name ≠ "..") (hlink : t.get? (place ++ [name]) = some (.link target))
      (hend : toTarget = false) : Walks t toTarget 1 place [name] (place ++ [name])
  | link {steps : Nat} {place q : Place} {name target : String} {rest : List String}
      (henter : t.Enters place name) (hname : name ≠ "." ∧ name ≠ "..")
      (hlink : t.get? (place ++ [name]) = some (.link target))
      (hend : rest ≠ [] ∨ toTarget = true)
      (h : Walks t toTarget steps (if isAbsolute target then [] else place)
        (Files.steps target ++ rest) q) : Walks t toTarget (steps + 1) place (name :: rest) q
  | into {steps : Nat} {place q : Place} {name : String} {rest : List String}
      (henter : t.Enters place name) (hname : name ≠ "." ∧ name ≠ "..")
      (hplain : ∀ target, t.get? (place ++ [name]) ≠ some (.link target))
      (h : Walks t toTarget steps (place ++ [name]) rest q) :
      Walks t toTarget (steps + 1) place (name :: rest) q

/-- What the recursion finds is where the names lead, in no more steps than its fuel. The cases are
those of the code, of which four are errors. -/
theorem walks_of_walk (h : t.walk toTarget fuel place names = .ok q) :
    ∃ steps ≤ fuel, t.Walks toTarget steps place names q := by
  have enters {n : Node} {name : String} {place : Place} (hn : t.get? place = some n)
      (hdir : ¬(!n.holdsOthers) = true) (hshort : ¬maxName < name.utf8ByteSize) :
      t.Enters place name :=
    ⟨⟨n, hn, by simpa using hdir⟩, by omega⟩
  fun_induction walk t toTarget fuel place names with
  | case1 => cases h
  | case2 fuel place hfuel =>
      cases h
      exact ⟨1, Nat.one_le_iff_ne_zero.mpr hfuel, .done _⟩
  | case3 => cases h
  | case4 => cases h
  | case5 => cases h
  | case6 fuel place rest n hn hdir hshort ih =>
      obtain ⟨steps, hle, hwalks⟩ := ih h
      exact ⟨steps + 1, Nat.succ_le_succ hle, .self (enters hn hdir hshort) hwalks⟩
  | case7 fuel place rest n hn hdir hshort _ ih =>
      obtain ⟨steps, hle, hwalks⟩ := ih h
      exact ⟨steps + 1, Nat.succ_le_succ hle, .up (enters hn hdir hshort) hwalks⟩
  | case8 fuel place name rest n hn hdir hshort hself hup next target hlink hend =>
      obtain rfl : place ++ [name] = q := Except.ok.inj h
      obtain ⟨hrest, hto⟩ := Bool.and_eq_true_iff.mp hend
      cases List.isEmpty_iff.mp hrest
      exact ⟨1, Nat.succ_pos _,
        .stop (enters hn hdir hshort) ⟨hself, hup⟩ hlink (by simpa using hto)⟩
  | case9 fuel place name rest n hn hdir hshort hself hup next target hlink hend _ ih =>
      obtain ⟨steps, hle, hwalks⟩ := ih h
      have hgo : rest ≠ [] ∨ toTarget = true := by
        cases rest with
        | nil => exact .inr (by simpa using hend)
        | cons => exact .inl (List.cons_ne_nil _ _)
      exact ⟨steps + 1, Nat.succ_le_succ hle,
        .link (enters hn hdir hshort) ⟨hself, hup⟩ hlink hgo hwalks⟩
  | case10 fuel place name rest n hn hdir hshort hself hup next hplain ih =>
      obtain ⟨steps, hle, hwalks⟩ := ih h
      exact ⟨steps + 1, Nat.succ_le_succ hle,
        .into (enters hn hdir hshort) ⟨hself, hup⟩ hplain hwalks⟩

theorem walk_cons (henter : t.Enters place name) :
    t.walk toTarget (fuel + 1) place (name :: rest) =
      if name = "." then t.walk toTarget fuel place rest
      else if name = ".." then t.walk toTarget fuel place.dropLast rest
      else
        match t.get? (place ++ [name]) with
        | some (.link target) =>
          if rest.isEmpty && !toTarget then .ok (place ++ [name])
          else
            t.walk toTarget fuel (if isAbsolute target then [] else place)
              (Files.steps target ++ rest)
        | _ => t.walk toTarget fuel (place ++ [name]) rest := by
  obtain ⟨⟨n, hn, hdir⟩, hshort⟩ := henter
  rw [walk, hn]
  dsimp only
  rw [if_neg (by simp [hdir])]
  exact if_neg (Nat.not_lt.mpr hshort)

/-- The walk gets there, unless it runs out of fuel on the way. Then it says that there are too many
links, whatever the reason was. -/
theorem Walks.walk_eq (h : t.Walks toTarget steps place names q) (fuel : Nat) :
    t.walk toTarget fuel place names = if steps ≤ fuel then .ok q else .error (.os 40) := by
  induction h generalizing fuel with
  | done place =>
      cases fuel with
      | zero => rfl
      | succ fuel => rw [walk, if_pos (by omega)]; nofun
  | self henter h ih =>
      cases fuel with
      | zero => rfl
      | succ fuel => simpa only [walk_cons henter, if_true, Nat.add_le_add_iff_right] using ih fuel
  | up henter h ih =>
      cases fuel with
      | zero => rfl
      | succ fuel =>
          rw [walk_cons henter, if_neg (by decide), if_pos rfl]
          simpa only [Nat.add_le_add_iff_right] using ih fuel
  | stop henter hname hlink hend =>
      cases fuel with
      | zero => rfl
      | succ fuel =>
          rw [walk_cons henter, if_neg hname.1, if_neg hname.2, hlink, hend, if_pos (by omega)]
          rfl
  | link henter hname hlink hend h ih =>
      cases fuel with
      | zero => rfl
      | succ fuel =>
          rw [walk_cons henter, if_neg hname.1, if_neg hname.2, hlink]
          dsimp only
          rw [if_neg (by simpa [Classical.or_iff_not_imp_left] using hend)]
          -- The names of the link come first, and the fuel is one less for it.
          simpa only [Nat.add_le_add_iff_right] using ih fuel
  | into henter hname hplain h ih =>
      cases fuel with
      | zero => rfl
      | succ fuel =>
          rw [walk_cons henter, if_neg hname.1, if_neg hname.2]
          split
          · rename_i target hlink
            exact absurd hlink (hplain target)
          · simpa only [Nat.add_le_add_iff_right] using ih fuel

/-- Names lead where they led in a tree that has grown, by induction on the steps. A name that led
to nothing might lead to a new directory, but never to a link, so that no name is taken for another
one. -/
theorem Walks.grows (hgrows : Grows mode t t') (h : t.Walks toTarget steps place names q) :
    t'.Walks toTarget steps place names q := by
  have enters {place : Place} {name : String} (henter : t.Enters place name) :
      t'.Enters place name := by
    obtain ⟨⟨n, hn, hdir⟩, hshort⟩ := henter
    exact ⟨⟨n, hgrows.get? hn, hdir⟩, hshort⟩
  induction h with
  | done place => exact .done place
  | self henter _ ih => exact .self (enters henter) ih
  | up henter _ ih => exact .up (enters henter) ih
  | stop henter hname hlink hend => exact .stop (enters henter) hname (hgrows.get? hlink) hend
  | link henter hname hlink hend _ ih =>
      exact .link (enters henter) hname (hgrows.get? hlink) hend ih
  | @into steps place q name rest henter hname hplain _ ih =>
      refine .into (enters henter) hname (fun target hlink => ?_) ih
      -- What is new is no link.
      rcases hgrows (place ++ [name]) with heq | ⟨-, hnew⟩
      · exact hplain target (heq ▸ hlink)
      · rw [hnew] at hlink
        cases hlink

/-- Where no link is at the end, it does not matter whether that would be followed. -/
theorem Walks.followed (h : t.Walks false steps place names q)
    (hplain : ∀ target, t.get? q ≠ some (.link target)) : t.Walks true steps place names q := by
  induction h with
  | done place => exact .done place
  | self henter _ ih => exact .self henter (ih hplain)
  | up henter _ ih => exact .up henter (ih hplain)
  | stop henter hname hlink hend => exact absurd hlink (hplain _)
  | link henter hname hlink hend _ ih => exact .link henter hname hlink (.inr rfl) (ih hplain)
  | into henter hname hno _ ih => exact .into henter hname hno (ih hplain)

/-- A dot behind names that lead to a directory. -/
theorem Walks.concat_self (h : t.Walks true steps place names q) (henter : t.Enters q ".") :
    t.Walks true (steps + 1) place (names ++ ["."]) q := by
  induction h with
  | done place => exact .self henter (.done place)
  | self hhere _ ih => exact .self hhere (ih henter)
  | up hhere _ ih => exact .up hhere (ih henter)
  | stop _ _ _ hend => cases hend
  | link hhere hname hlink hend _ ih =>
      exact .link hhere hname hlink (.inr rfl) (by simpa using ih henter)
  | into hhere hname hplain _ ih => exact .into hhere hname hplain (ih henter)

/-- Where names and more behind them lead to something, the names alone do so too. A link at their
end is what they lead to, since it is followed only for the sake of the names behind it. -/
theorem Walks.exists_front {all more : List String} (h : t.Walks true steps place all q)
    (hall : all = names ++ more) (hq : t.get? q ≠ none) :
    ∃ steps' q', t.Walks false steps' place names q' ∧ t.get? q' ≠ none := by
  have here {place : Place} {name : String} (henter : t.Enters place name) :
      t.get? place ≠ none := by
    obtain ⟨⟨n, hn, -⟩, -⟩ := henter
    rw [hn]
    nofun
  induction h generalizing names with
  | done place =>
      obtain rfl := (List.append_eq_nil_iff.mp hall.symm).1
      exact ⟨1, place, .done place, hq⟩
  | @self _ place _ rest henter _ ih =>
      cases names with
      | nil => exact ⟨1, place, .done place, here henter⟩
      | cons name names =>
          obtain ⟨rfl, rfl⟩ := List.cons.inj hall
          obtain ⟨steps', q', hwalks, hq'⟩ := ih rfl hq
          exact ⟨_, q', .self henter hwalks, hq'⟩
  | @up _ place _ rest henter _ ih =>
      cases names with
      | nil => exact ⟨1, place, .done place, here henter⟩
      | cons name names =>
          obtain ⟨rfl, rfl⟩ := List.cons.inj hall
          obtain ⟨steps', q', hwalks, hq'⟩ := ih rfl hq
          exact ⟨_, q', .up henter hwalks, hq'⟩
  | stop _ _ _ hend => cases hend
  | @link _ place _ name target rest henter hname hlink _ _ ih =>
      cases names with
      | nil => exact ⟨1, place, .done place, here henter⟩
      | cons name names =>
          obtain ⟨rfl, rfl⟩ := List.cons.inj hall
          cases names with
          | nil => exact ⟨1, _, .stop henter hname hlink rfl, by rw [hlink]; nofun⟩
          | cons name' names =>
              obtain ⟨steps', q', hwalks, hq'⟩ := ih (List.append_assoc _ _ _).symm hq
              exact ⟨_, q', .link henter hname hlink (.inl (List.cons_ne_nil _ _)) hwalks, hq'⟩
  | @into _ place _ name rest henter hname hplain _ ih =>
      cases names with
      | nil => exact ⟨1, place, .done place, here henter⟩
      | cons name names =>
          obtain ⟨rfl, rfl⟩ := List.cons.inj hall
          obtain ⟨steps', q', hwalks, hq'⟩ := ih rfl hq
          exact ⟨_, q', .into henter hname hplain hwalks, hq'⟩

/-- A path never ends in an error that says that something is there. -/
theorem walk_ne_alreadyExists :
    t.walk toTarget fuel place names ≠ .error .alreadyExists := by
  fun_induction walk t toTarget fuel place names with
  | case6 | case7 | case9 | case10 => assumption
  | _ => nofun

/-! ### Paths -/

/-- A path that the kernel looks at: there is no zero in it, it is not empty, and it is not too
long. An operation on any other path fails before the tree is looked at. -/
structure Sayable (path : String) : Prop where
  noNul : '\x00' ∉ path.toList
  nonempty : path.isEmpty = false
  short : path.utf8ByteSize ≤ maxPath

theorem Sayable.follow_eq (h : Sayable path) :
    t.follow toTarget path names = t.walk toTarget (maxLinks * (names.length + 2)) [] names := by
  rw [follow, if_neg (by simp [h.noNul]), if_neg (by simp [h.nonempty]),
    if_neg (Nat.not_lt.mpr h.short)]

theorem sayable_of_follow (h : t.follow toTarget path names = .ok q) : Sayable path := by
  unfold follow at h
  by_cases hnul : path.toList.contains '\x00' = true
  · rw [if_pos hnul] at h
    cases h
  · rw [if_neg hnul] at h
    by_cases hempty : path.isEmpty = true
    · rw [if_pos hempty] at h
      cases h
    · rw [if_neg hempty] at h
      by_cases hlong : maxPath < path.utf8ByteSize
      · rw [if_pos hlong] at h
        cases h
      · exact ⟨by simpa using hnul, by simpa using hempty, Nat.not_lt.mp hlong⟩

theorem follow_ne_alreadyExists : t.follow toTarget path names ≠ .error .alreadyExists := by
  unfold follow
  split
  · nofun
  · split
    · nofun
    · split
      · nofun
      · exact walk_ne_alreadyExists

theorem isDirectory_iff :
    t.isDirectory path = true ↔
      ∃ place n, t.locate true path = .ok place ∧ t.get? place = some n ∧ n.holdsOthers = true := by
  unfold isDirectory lookup
  cases hplace : t.locate true path with
  | error e => simp
  | ok place =>
      cases hn : t.get? place with
      | none => simp [hn]
      | some n => simp [hn]

/-- A directory at the place where something new would be made. A link at the end would not have
been followed there; but a directory is no link. -/
theorem isDirectory_of_follow {n : Node} (h : t.follow false path (parts path) = .ok place)
    (hn : t.get? place = some n) (hdir : n.holdsOthers = true) : t.isDirectory path = true := by
  have hsay := sayable_of_follow h
  rw [hsay.follow_eq] at h
  obtain ⟨steps, hle, hwalks⟩ := walks_of_walk h
  have hfollowed := hwalks.followed fun target hlink => by
    rw [hn] at hlink
    cases hlink
    cases hdir
  refine isDirectory_iff.mpr ⟨place, n, ?_, hn, hdir⟩
  unfold locate Files.steps
  rw [hsay.follow_eq]
  by_cases hslash : endsInSlash path = true
  · have henter : t.Enters place "." := ⟨⟨n, hn, hdir⟩, by decide⟩
    rw [if_pos hslash, (hfollowed.concat_self henter).walk_eq, if_pos]
    rw [List.length_append, List.length_singleton]
    unfold maxLinks at hle ⊢
    omega
  · rw [if_neg hslash, List.append_nil, hfollowed.walk_eq, if_pos hle]

/-! ### Making one directory -/

theorem follow_of_locateNew {taken : Option Node} (h : t.locateNew path = .ok (place, taken)) :
    t.follow false path (parts path) = .ok place ∧ t.get? place = taken := by
  unfold locateNew at h
  cases hplace : t.follow false path (parts path) with
  | error e =>
      rw [hplace] at h
      cases h
  | ok place' =>
      simp only [hplace] at h
      cases hn : t.get? place' with
      | some n =>
          simp only [hn] at h
          cases h
          exact ⟨rfl, hn⟩
      | none =>
          simp only [hn] at h
          split at h
          · cases h
          · cases h
            exact ⟨rfl, hn⟩

theorem locateNew_ne_alreadyExists : t.locateNew path ≠ .error .alreadyExists := by
  unfold locateNew
  cases hplace : t.follow false path (parts path) with
  | error e =>
      rintro h
      cases h
      exact follow_ne_alreadyExists hplace
  | ok place =>
      cases hn : t.get? place with
      | some n => simp [hn]
      | none =>
          simp only [hn]
          split
          · nofun
          · nofun

/-- What making one directory can come to: it is made, it was there, or it is refused and nothing
has changed. -/
inductive Tries (mode : Nat) (path : String) (t : Tree) : Except IoError Unit × Tree → Prop
  | made {t' : Tree} (h : t.makeDirectory mode path = .ok t') : Tries mode path t (.ok (), t')
  | there {e : IoError} (h : t.makeDirectory mode path = .error e)
      (hdir : t.isDirectory path = true) : Tries mode path t (.ok (), t)
  | refused {e : IoError} (h : t.makeDirectory mode path = .error e)
      (hdir : t.isDirectory path = false) : Tries mode path t (.error e, t)

theorem locateNew_of_made (h : t.makeDirectory mode path = .ok t') :
    ∃ place, t.locateNew path = .ok (place, none) ∧ t' = t.put place (.directory mode) := by
  unfold makeDirectory at h
  split at h
  · cases h
  · cases h
  · rename_i place hplace
    cases h
    exact ⟨place, hplace, rfl⟩

theorem locateNew_of_alreadyExists (h : t.makeDirectory mode path = .error .alreadyExists) :
    ∃ place n, t.locateNew path = .ok (place, some n) := by
  unfold makeDirectory at h
  split at h
  · rename_i e he
    cases h
    exact absurd he locateNew_ne_alreadyExists
  · rename_i place n hplace
    exact ⟨place, n, hplace⟩
  · cases h

/-- Something other than a directory stands where a path leads. A link to a directory does not
count, for it is found to be one. -/
def Blocks (t : Tree) (path : String) : Prop :=
  (∃ place n, t.locateNew path = .ok (place, some n)) ∧ t.isDirectory path = false

theorem Tries.grows {r : Except IoError Unit × Tree} (h : Tries mode path t r) :
    Grows mode t r.2 := by
  cases h with
  | made h =>
      obtain ⟨place, hplace, rfl⟩ := locateNew_of_made h
      exact grows_put (follow_of_locateNew hplace).2
  | there => exact .refl mode t
  | refused => exact .refl mode t

theorem Tries.isDirectory (h : Tries mode path t (.ok (), t')) : t'.isDirectory path = true := by
  cases h with
  | made h =>
      obtain ⟨place, hplace, rfl⟩ := locateNew_of_made h
      obtain ⟨hfollow, hfree⟩ := follow_of_locateNew hplace
      have hsay := sayable_of_follow hfollow
      -- The new directory is found where it was made.
      have hfollow' : (t.put place (.directory mode)).follow false path (parts path) =
          .ok place := by
        rw [hsay.follow_eq] at hfollow ⊢
        obtain ⟨steps, hle, hwalks⟩ := walks_of_walk hfollow
        have hgrows : Grows mode t (t.put place (.directory mode)) := grows_put hfree
        rw [(hwalks.grows hgrows).walk_eq, if_pos hle]
      refine isDirectory_of_follow hfollow' (n := .directory mode) ?_ rfl
      rw [get?_put, if_pos rfl]
  | there _ hdir => exact hdir

theorem Tries.blocks (h : Tries mode path t (.error .alreadyExists, t')) : t'.Blocks path := by
  cases h with
  | refused h hdir => exact ⟨locateNew_of_alreadyExists h, hdir⟩

/-! ### Making all that are missing -/

/-- A path, or one that has names of it left out at the end. These are the paths at which the
recursion may make a directory. -/
inductive Above : String → String → Prop
  | self (path : String) : Above path path
  | parent {top above path : String} (hparent : parent? path = some above)
      (h : Above top above) : Above top path

/-- What making a directory and those above it can come to, one rule for each way through the
recursion. It leaves out the fuel: running out of it is a way to be stuck. -/
inductive Makes (mode : Nat) : String → Tree → Except IoError Unit × Tree → Prop
  | nothing (t : Tree) : Makes mode "" t (.ok (), t)
  | alone {path : String} {t : Tree} {r : Except IoError Unit × Tree} (h : Tries mode path t r) :
      Makes mode path t r
  /-- There is nothing above that could be made. -/
  | stuck {path : String} {t : Tree} {e : IoError} (he : e ≠ .alreadyExists) :
      Makes mode path t (.error e, t)
  | failed {path above : String} {t t' : Tree} {e : IoError} (hparent : parent? path = some above)
      (habove : Makes mode above t (.error e, t')) : Makes mode path t (.error e, t')
  | inside {path above : String} {t t' : Tree} {r : Except IoError Unit × Tree}
      (hparent : parent? path = some above) (habove : Makes mode above t (.ok (), t'))
      (h : Tries mode path t' r) : Makes mode path t r

/-- A further attempt at a path, as the recursion makes it. -/
theorem tries_of_error {e : IoError} (h : t.makeDirectory mode path = .error e) :
    Tries mode path t (if t.isDirectory path = true then .ok () else .error e, t) := by
  by_cases hdir : t.isDirectory path = true
  · rw [if_pos hdir]
    exact .there h hdir
  · rw [if_neg hdir]
    exact .refused h (by simpa using hdir)

/-- The recursion comes to what `Makes` says. The cases are those of the code. -/
theorem makes_within (mode fuel : Nat) (path : String) (t : Tree) :
    Makes mode path t (makeDirectoriesWithin mode fuel path t) := by
  fun_induction makeDirectoriesWithin mode fuel path t with
  | case1 => exact .stuck (by decide)
  | case2 fuel path t hempty =>
      obtain rfl : path = "" := by simpa using hempty
      exact .nothing t
  | case3 fuel path t _ t' hmade => exact .alone (.made hmade)
  | case4 fuel path t _ e he _ => exact .alone (tries_of_error he)
  | case5 => exact .stuck nofun
  | case6 fuel path t _ _ _ _ above hparent e t' habove ih =>
      rw [habove] at ih
      exact .failed hparent ih
  | case7 fuel path t _ _ _ _ above hparent t' habove t'' hmade ih =>
      rw [habove] at ih
      exact .inside hparent ih (.made hmade)
  | case8 fuel path t _ _ _ _ above hparent t' habove e he ih =>
      rw [habove] at ih
      exact .inside hparent ih (tries_of_error he)

theorem Makes.grows {r : Except IoError Unit × Tree} (h : Makes mode path t r) :
    Grows mode t r.2 := by
  induction h with
  | nothing t => exact .refl mode t
  | alone h => exact h.grows
  | stuck => exact .refl mode _
  | failed _ _ ih => exact ih
  | inside _ _ h ih => exact ih.trans h.grows

theorem Makes.isDirectory (h : Makes mode path t (.ok (), t')) (hpath : path ≠ "") :
    t'.isDirectory path = true := by
  cases h with
  | nothing => exact absurd rfl hpath
  | alone h => exact h.isDirectory
  | inside _ _ h => exact h.isDirectory

theorem Makes.blocks {r : Except IoError Unit × Tree} (h : Makes mode path t r)
    (hr : r.1 = .error .alreadyExists) : ∃ top, Above top path ∧ r.2.Blocks top := by
  induction h with
  | nothing => cases hr
  | @alone path t r h =>
      obtain ⟨_, t'⟩ := r
      cases hr
      exact ⟨path, .self path, h.blocks⟩
  | stuck he =>
      cases hr
      exact absurd rfl he
  | failed hparent _ ih =>
      obtain ⟨top, habove, hblocks⟩ := ih hr
      exact ⟨top, .parent hparent habove, hblocks⟩
  | @inside path _ _ _ r _ _ h _ =>
      obtain ⟨_, t'⟩ := r
      cases hr
      exact ⟨path, .self path, h.blocks⟩

/-- Making directories adds directories with these permission bits, however it ends. -/
theorem makeDirectories_grows (mode : Nat) (path : String) (t : Tree) :
    Grows mode t (t.makeDirectories mode path).2 :=
  (makes_within mode _ path t).grows

/-- Where there is a directory, there is nothing to do. The attempt to make it fails, and not
because the directory above is missing, so that the recursion does not go up. -/
theorem makeDirectories_of_isDirectory (mode : Nat) (h : t.isDirectory path = true) :
    t.makeDirectories mode path = (.ok (), t) := by
  obtain ⟨place, n, hplace, hn, -⟩ := isDirectory_iff.mp h
  have hsay := sayable_of_follow hplace
  unfold locate at hplace
  rw [hsay.follow_eq] at hplace
  obtain ⟨steps, -, hwalks⟩ := walks_of_walk hplace
  obtain ⟨steps', q, hfront, hq⟩ := hwalks.exists_front rfl (by rw [hn]; nofun)
  obtain ⟨m, hm⟩ := Option.ne_none_iff_exists'.mp hq
  -- The names of the path lead somewhere even without a slash at its end, so making the directory
  -- finds something there or gives up at the number of links.
  have hmade : ∃ e, t.makeDirectory mode path = .error e ∧ e ≠ .notFound := by
    unfold makeDirectory locateNew
    rw [hsay.follow_eq, hfront.walk_eq]
    by_cases hle : steps' ≤ maxLinks * ((parts path).length + 2)
    · rw [if_pos hle]
      exact ⟨.alreadyExists, by simp [hm], by decide⟩
    · rw [if_neg hle]
      exact ⟨.os 40, rfl, by decide⟩
  obtain ⟨e, he, hne⟩ := hmade
  unfold makeDirectories
  rw [makeDirectoriesWithin, if_neg (by simp [hsay.nonempty]), he]
  dsimp only
  rw [if_pos hne, if_pos h]

end Switchyard.Files.Tree
