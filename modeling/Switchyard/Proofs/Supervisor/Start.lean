import Switchyard.Proofs.Supervisor.Fleet

/-!
# Switchyard.Proofs.Supervisor.Start

**An attempt that fails undoes what it did** (`beginCommand_undone`, `beginBatch_undone`). There are
three ways (`Undone`): it did nothing to any child; or it started some, could not start the next
one, and stopped those before it; or its worker was lost for want of a thread, and all the children
it had started with it. The parties that share the record have nothing left to do then
(`Watch.over_of_refused`, `Batch.over_of_refused`).

`spawnAll` is opened once, in `spawnAll_undone`, and by induction on the command lines with the
children that were started before as a variable.

That an attempt undoes what it did is proved from the inside out: of one child and its pipe, of the
children of a batch, of the worker that starts them, and of the start that stores a record only if
the worker's word is good.
-/

namespace Switchyard.Supervisor

variable {host : Host} {root : Option String} {deeds : List Deed} {e : StartError}

/-! ### Children -/

/-- So many children that were started. -/
def begun (children : Nat) : List Deed :=
  (List.range children).map (.start · (.ok ()))

/-- Children that were started, the next one that was not, and the same children stopped. -/
def undone (host : Host) (n : Nat) (e : StartError) : List Deed :=
  begun n ++ .start n (.error e) :: (List.range n).flatMap (stop host)

/-- What an attempt that failed has done to children. -/
inductive Undone (host : Host) : List Deed → StartError → Prop where
  /-- No child was started. -/
  | nothing {e : StartError} (hspawn : ∀ program error, e ≠ .spawn program error)
      (hlost : e ≠ .workerLost) : Undone host [] e
  /-- A child could not be started, and those before it were stopped. -/
  | stopped (n : Nat) (program : String) (e : IoError) :
      Undone host (undone host n (.spawn program e)) (.spawn program e)
  /-- There was no thread for the output of a child. The worker ended, and so did its children. -/
  | lost (n : Nat) (e : IoError) (hcollect : host.collect n = .error e) :
      Undone host (begun (n + 1) ++ abandoned (n + 1)) .workerLost

/-- The child that has just been started is the last of those that were started before the next
one. -/
theorem begun_succ_append (n : Nat) (rest : List Deed) :
    begun (n + 1) ++ rest = begun n ++ .start n (.ok ()) :: rest := by
  unfold begun
  rw [List.range_succ, List.map_append, List.append_assoc]
  rfl

theorem error_of_map_eq_error {ε α β : Type} {f : α → β} {x : Except ε α} {e : ε}
    (h : x.map f = .error e) : x = .error e := by
  cases x with
  | error e' => exact congrArg Except.error (Except.error.inj h)
  | ok a => cases h

/-- A program that cannot be started is named. -/
theorem spawn_eq_error {child : Nat} {args : List String} (h : spawn host child args = .error e) :
    ∃ error, e = .spawn (args.headD "") error := by
  unfold spawn at h
  cases hstart : host.start child args with
  | ok c => simp [hstart] at h
  | error error =>
      simp only [hstart, Except.error.injEq] at h
      exact ⟨error, h.symm⟩

/-! ### Words of a worker -/

section Words

variable {α β : Type} (deeds : List Deed)

@[simp] theorem Work.result_some (result : Except StartError α) :
    (⟨deeds, some result⟩ : Work α).result = result := rfl

@[simp] theorem Work.result_none : (⟨deeds, none⟩ : Work α).result = .error .workerLost := rfl

/-- What is done to the value of a word is done to what the starter hears. -/
theorem Work.result_map (f : α → β) (w : Work α) :
    (⟨deeds, w.word.map fun result => result.map f⟩ : Work β).result = w.result.map f := by
  unfold Work.result
  cases w.word <;> rfl

end Words

/-! ### Work -/

theorem spawnPiped_undone {args : List String} (h : (spawnPiped host args).result = .error e) :
    Undone host (spawnPiped host args).deeds e := by
  unfold spawnPiped at h ⊢
  cases hpipe : host.pipe with
  | error error =>
      simp only [hpipe, Work.result_some, Except.error.injEq] at h ⊢
      subst h
      exact .nothing nofun nofun
  | ok u =>
      cases hspawn : spawn host 0 args with
      | error error =>
          simp only [hpipe, hspawn, Work.result_some, Except.error.injEq] at h ⊢
          subst h
          obtain ⟨io, rfl⟩ := spawn_eq_error hspawn
          exact .stopped 0 _ io
      | ok c =>
          -- The word was sent before the reader was made, so the start has succeeded.
          simp [hpipe, hspawn] at h

/-- Where so many children were started before, what a later one fails with ends them all: they are
stopped if it could not be started, and lost with the worker if there was no thread for its
output. -/
theorem spawnAll_undone (before : Nat) {commands : List (List String)}
    (h : (spawnAll host before commands).result = .error e) :
    Undone host (begun before ++ (spawnAll host before commands).deeds) e := by
  induction commands generalizing before with
  | nil => cases h
  | cons args rest ih =>
      unfold spawnAll at h ⊢
      cases hspawn : spawn host before args with
      | error error =>
          simp only [hspawn, Work.result_some, Except.error.injEq] at h ⊢
          subst h
          obtain ⟨io, rfl⟩ := spawn_eq_error hspawn
          exact .stopped before _ io
      | ok c =>
          cases hcollect : host.collect before with
          | error error =>
              simp only [hspawn, hcollect, Work.result_none, Except.error.injEq] at h ⊢
              subst h
              rw [← begun_succ_append]
              exact .lost before error hcollect
          | ok u =>
              simp only [hspawn, hcollect, Work.result_map] at h ⊢
              rw [← begun_succ_append]
              -- A word that brings conducts gets one more, an error is handed on as it is.
              exact ih (before + 1) (error_of_map_eq_error h)

/-! ### Attempts -/

/-- A start that fails leaves the store as it was, and undoes what it did. -/
def Start.FailsUndone {α : Type} (host : Host) (s : Store α) (r : Start α) : Prop :=
  ∀ e, r.result = .error e → r.store = s ∧ Undone host r.deeds e

theorem Attempt.stored_undone {α β : Type} {a : Attempt β} {entry : β → α} {s : Store α}
    (h : ∀ e, a.result = .error e → Undone host a.deeds e) :
    (a.stored entry s).FailsUndone host s := by
  intro e he
  rcases a.stored_cases entry s with ⟨error, hresult, hstored⟩ | ⟨started, -, hstored⟩
  · rw [hstored] at he ⊢
    obtain rfl : error = e := Except.error.inj he
    exact ⟨rfl, h error hresult⟩
  · rw [hstored] at he
    cases he

theorem prepare_eq_error {args : List String} (h : prepare root args = .error e) :
    e = .emptyCommand := by
  cases args with
  | nil => exact (Except.error.inj h).symm
  | cons program args => cases h

theorem prepareAll_eq_error {commands : List (List String)}
    (h : prepareAll root commands = .error e) : e = .emptyCommand := by
  fun_induction prepareAll root commands with
  | case1 => cases h
  | case2 args rest error hprepared =>
      cases h
      exact prepare_eq_error hprepared
  | case3 args rest prepared _ ih => exact ih (error_of_map_eq_error h)

/-- An attempt that ended before there was a worker. -/
theorem refused_undone {α : Type} {error : StartError}
    (hspawn : ∀ program io, error ≠ .spawn program io) (hlost : error ≠ .workerLost)
    (h : (Attempt.refused error : Attempt α).result = .error e) :
    Undone host (Attempt.refused error : Attempt α).deeds e := by
  cases h
  exact .nothing hspawn hlost

theorem inWorker_undone {α : Type} {work : Work α}
    (hwork : ∀ e, work.result = .error e → Undone host work.deeds e)
    (h : (inWorker host work).result = .error e) :
    Undone host (inWorker host work).deeds e := by
  unfold inWorker at h ⊢
  cases hthread : host.thread with
  | error error =>
      simp only [hthread] at h ⊢
      exact refused_undone nofun nofun h
  | ok u => exact hwork e (by simpa [hthread] using h)

/-- A command that cannot be started leaves no child. -/
theorem beginCommand_undone {args : List String}
    (h : (beginCommand host root args).result = .error e) :
    Undone host (beginCommand host root args).deeds e := by
  unfold beginCommand at h ⊢
  cases hprepared : prepare root args with
  | error error =>
      obtain rfl := prepare_eq_error hprepared
      simp only [hprepared] at h ⊢
      exact refused_undone nofun nofun h
  | ok prepared =>
      simp only [hprepared] at h ⊢
      exact inWorker_undone (fun _ => spawnPiped_undone) h

/-- A batch that cannot be started leaves no child that was neither stopped nor lost. -/
theorem beginBatch_undone {commands : List (List String)}
    (h : (beginBatch host root commands).result = .error e) :
    Undone host (beginBatch host root commands).deeds e := by
  unfold beginBatch at h ⊢
  cases hprepared : prepareAll root commands with
  | error error =>
      obtain rfl := prepareAll_eq_error hprepared
      simp only [hprepared] at h ⊢
      exact refused_undone nofun nofun h
  | ok prepared =>
      cases prepared with
      | nil =>
          simp only [hprepared] at h ⊢
          exact refused_undone nofun nofun h
      | cons first rest =>
          simp only [hprepared] at h ⊢
          exact inWorker_undone (fun _ => spawnAll_undone 0) h

theorem startCommand_undone (id : String) (args : List String) (handlers : List LineHandler)
    (limit : Option Nat) (now : Nat) (s : Commands) :
    (startCommand host root id args handlers limit now s).FailsUndone host s :=
  Attempt.stored_undone fun _ => beginCommand_undone

theorem startBatch_undone (id : String) (commands : List (List String))
    (entry : Nat → Json → Json) (now : Nat) (s : Batches) :
    (startBatch host root id commands entry now s).FailsUndone host s :=
  Attempt.stored_undone fun _ => beginBatch_undone

namespace Undone

/-- If a child could not be started, those before it were killed and waited for, where the system
can do that. -/
theorem stopped_of_spawn {program : String} {error : IoError}
    (h : Undone host deeds (.spawn program error)) (hkill : ∀ child, host.kill child = .ok ())
    (hreap : ∀ child, host.reap child = .ok ()) :
    ∃ n, deeds = (List.range n).map (.start · (.ok ())) ++
      .start n (.error (.spawn program error)) ::
        (List.range n).flatMap fun child => [.kill child (.ok ()), .reap child (.ok ())] := by
  have hstop : stop host = fun child => [.kill child (.ok ()), .reap child (.ok ())] := by
    funext child
    simp only [stop, hkill, hreap]
  cases h with
  | nothing hspawn _ => exact absurd rfl (hspawn program error)
  | stopped n program error => exact ⟨n, by rw [undone, begun, hstop]⟩

/-- A worker is lost with all its children, the last of which has no thread for its output. -/
theorem abandoned_of_lost (h : Undone host deeds .workerLost) :
    ∃ n error, host.collect n = .error error ∧
      deeds = (List.range (n + 1)).map (.start · (.ok ())) ++ (List.range (n + 1)).map .abandon := by
  cases h with
  | nothing _ hlost => exact absurd rfl hlost
  | lost n error hcollect => exact ⟨n, error, hcollect, rfl⟩

/-- After any other error no child was started. -/
theorem eq_nil (h : Undone host deeds e) (hspawn : ∀ program error, e ≠ .spawn program error)
    (hlost : e ≠ .workerLost) : deeds = [] := by
  cases h with
  | nothing => rfl
  | stopped n program error => exact absurd rfl (hspawn program error)
  | lost => exact absurd rfl hlost

end Undone

/-! ### Parties -/

/-- A command that was not started is over for everybody. -/
theorem Watch.over_of_refused {w : Watch} (h : w.stage = .refused e) (htasks : w.tasks = [])
    (event : Event) : w.step event = none := by
  have hstarted : w.started = false := by simp [started, h]
  have hlistens : w.listens = false := by simp [listens, hstarted]
  cases hstep : w.step event with
  | none => rfl
  | some v =>
      -- The worker is not where it could go on, the reader does not listen and has no task.
      cases steps_of_step hstep with
      | spawned hstage | refused _ hstage | reaped _ hstage | finished hstage | reported hstage =>
          rw [h] at hstage
          cases hstage
      | stored hbegun =>
          rw [hstarted] at hbegun
          cases hbegun
      | heard _ hlistening | heardAll hlistening | lost hlistening =>
          rw [hlistens] at hlistening
          cases hlistening
      | worked htask =>
          rw [htasks] at htask
          cases htask

/-- A batch that was not started is over for everybody. -/
theorem Batch.over_of_refused {b : Batch} (h : b.stage = .refused e) (hadds : b.adds = [])
    (event : BatchEvent) : b.step event = none := by
  have hstarted : b.started = false := by simp [started, h]
  have hwatches : b.watches = false := by simp [watches, h]
  cases hstep : b.step event with
  | none => rfl
  | some c =>
      -- The worker is not where it could go on and watches nothing, and nothing is to be added.
      cases steps_of_step hstep with
      | spawned _ hstage | refused _ hstage | reported hstage =>
          rw [h] at hstage
          cases hstage
      | stored hbegun =>
          rw [hstarted] at hbegun
          cases hbegun
      | ended _ _ _ hwatching | failed _ _ _ hwatching | looked _ _ _ hwatching
        | finished hwatching =>
          rw [hwatches] at hwatching
          cases hwatching
      | added hadd =>
          rw [hadds] at hadd
          cases hadd

end Switchyard.Supervisor
