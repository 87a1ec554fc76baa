import Switchyard.Proofs.Files.Tree
import Switchyard.Settings.Endpoint

/-!
# Switchyard.Proofs.Settings.Directory

**What has become of a socket's directory when it has been prepared** (`prepare_outcome`). Nothing
that was there is changed or removed, and all that is new are directories for their owner alone. The
socket's own directory may be one of these; it may have been there before, and then it is left as it
is, whoever can use it; or there is no such directory, since something else stands in its place or
above it. `open_or_missing` has a tree for each of the last two.

A directory is made after those above it that are missing. An attempt at a path where something else
stands already fails, and this failure is passed over, so success is reported without a directory.
What an attempt comes to is told by `Tree.Makes`, and what it leaves alone by `Tree.Grows`; the
result reads both off for the directory of the socket.
-/

namespace Switchyard.Settings.Endpoint

open Files

variable {t : Tree} {path parent : String}

/-- What has become of the parent of a path, from one tree to the other. The last three cases all
report success. -/
inductive Prepared (t t' : Tree) (path : String) : Except PrepareError Unit → Prop
  /-- A parent that is a directory already is never refused. -/
  | refused {e : PrepareError}
      (h : ∀ parent, parent? path = some parent → t.isDirectory parent = false) :
      Prepared t t' path (.error e)
  | made {parent : String} {place : Place} (hparent : parent? path = some parent)
      (hplace : t'.locate true parent = .ok place) (hbefore : t.get? place = none)
      (hafter : t'.get? place = some (.directory privateMode)) : Prepared t t' path (.ok ())
  /-- It was a directory before and is what it was. -/
  | kept {parent : String} {place : Place} {n : Node} (hparent : parent? path = some parent)
      (hplace : t'.locate true parent = .ok place) (hdir : n.holdsOthers = true)
      (hbefore : t.get? place = some n) (hafter : t'.get? place = some n) :
      Prepared t t' path (.ok ())
  /-- Something that is no directory stands there or above it, and stood there before. -/
  | blocked {parent top : String} {place : Place} {n : Node} (hparent : parent? path = some parent)
      (habove : Tree.Above top parent) (hplace : t'.locateNew top = .ok (place, some n))
      (hdir : t'.isDirectory top = false) (hbefore : t.get? place = some n) :
      Prepared t t' path (.ok ())

theorem prepare_of_parent (hparent : parent? path = some parent) (hne : parent ≠ "") :
    prepare t (.unix path) =
      match t.makeDirectories privateMode parent with
      | (.ok (), t') => (.ok (), t')
      | (.error e, t') =>
        (if e = .alreadyExists then .ok () else .error (.createDirectory parent e), t') := by
  unfold prepare
  dsimp only
  rw [hparent]
  split
  · rename_i h
    cases h
  · rename_i h
    exact absurd (Option.some.inj h) hne
  · rename_i h
    cases h
    rfl

theorem prepared_of_isDirectory {t' : Tree} (hgrows : t.Grows privateMode t')
    (hparent : parent? path = some parent) (hdir : t'.isDirectory parent = true) :
    Prepared t t' path (.ok ()) := by
  obtain ⟨place, n, hplace, hn, hholds⟩ := Tree.isDirectory_iff.mp hdir
  rcases hgrows place with hsame | ⟨hfree, hnew⟩
  · exact .kept hparent hplace hholds (hsame ▸ hn) hn
  · exact .made hparent hplace hfree hnew

theorem prepared_of_blocks {t' : Tree} {top : String} (hgrows : t.Grows privateMode t')
    (hparent : parent? path = some parent) (habove : Tree.Above top parent)
    (hblocks : t'.Blocks top) : Prepared t t' path (.ok ()) := by
  obtain ⟨⟨place, n, hplace⟩, hdir⟩ := hblocks
  obtain ⟨hfollow, hn⟩ := Tree.follow_of_locateNew hplace
  refine .blocked hparent habove hplace hdir ?_
  rcases hgrows place with hsame | ⟨-, hnew⟩
  · rw [← hsame, hn]
  · -- What is new is a directory, and does not block the way.
    rw [Tree.isDirectory_of_follow hfollow hnew rfl] at hdir
    cases hdir

theorem isDirectory_of_empty (t : Tree) : t.isDirectory "" = false := rfl

/-- **What preparing comes to.** All that was there stays, all that is new is private; and if the
endpoint is found ready, its directory is new, or is the one that was there, or cannot be.

Of any tree and any path: the cases are whether the path has a parent, and then what came of the
attempt to make it. -/
theorem prepare_outcome (t : Tree) (path : String) :
    t.Grows privateMode (prepare t (.unix path)).2 ∧
      Prepared t (prepare t (.unix path)).2 path (prepare t (.unix path)).1 := by
  by_cases hparent : ∃ parent, parent? path = some parent ∧ parent ≠ ""
  · obtain ⟨parent, hparent, hne⟩ := hparent
    have hmakes : Tree.Makes privateMode parent t (t.makeDirectories privateMode parent) :=
      Tree.makes_within ..
    have hgrows := Tree.makeDirectories_grows privateMode parent t
    rw [prepare_of_parent hparent hne]
    rcases hmade : t.makeDirectories privateMode parent with ⟨_ | _, t'⟩
    all_goals
      rw [hmade] at hmakes hgrows
      refine ⟨hgrows, ?_⟩
    · rename_i e
      dsimp only
      by_cases he : e = .alreadyExists
      · subst he
        -- The failure that is passed over: something stands in the way, and it stood there before.
        obtain ⟨top, habove, hblocks⟩ := hmakes.blocks rfl
        exact prepared_of_blocks hgrows hparent habove hblocks
      · rw [if_neg he]
        refine .refused fun parent' hparent' => ?_
        obtain rfl := Option.some.inj (hparent.symm.trans hparent')
        cases hdir : t.isDirectory parent with
        | false => rfl
        | true =>
            rw [Tree.makeDirectories_of_isDirectory _ hdir] at hmade
            cases hmade
    · exact prepared_of_isDirectory hgrows hparent (hmakes.isDirectory hne)
  · have hrefused : prepare t (.unix path) = (.error (.missingParent path), t) := by
      unfold prepare
      dsimp only
      split
      · rfl
      · rfl
      · rename_i parent hne h
        exact absurd ⟨parent, h, hne⟩ hparent
    rw [hrefused]
    refine ⟨.refl _ t, .refused fun parent h => ?_⟩
    by_cases hne : parent = ""
    · rw [hne]
      exact isDirectory_of_empty t
    · exact absurd ⟨parent, h, hne⟩ hparent

/-- A directory that everybody can use, a file in the place of the directory, and a file above it
that only comes into sight once a missing directory has been made. -/
theorem open_or_missing :
    let opened : Tree := [(["run"], .directory 0o755)]
    let filed : Tree := [(["run"], .file)]
    prepare opened (.unix "/run/s") = (.ok (), opened) ∧
      prepare filed (.unix "/run/s") = (.ok (), filed) ∧
      (prepare filed (.unix "/a/../run/x/s")).1 = .ok () ∧
      (prepare filed (.unix "/a/../run/x/s")).2.lookup true "/a/../run/x" = .error .notDirectory := by
  refine ⟨rfl, rfl, rfl, rfl⟩

end Switchyard.Settings.Endpoint
