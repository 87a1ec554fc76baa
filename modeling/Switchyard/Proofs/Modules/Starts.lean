import Switchyard.Proofs.Modules.Diagnostics
import Switchyard.Proofs.Supervisor.Start

/-!
# Switchyard.Proofs.Modules.Starts

**A start that fails leaves no trace** (`failed_start_leaves_no_trace`), whatever the cause and
wherever in a list of commands it lies.

* `deeds` — what a request for a process does to children.
* `Fails` — how such a request can fail: its payload is of no use, or there is an attempt to start
  children that fails and undoes what it did. `fails_of_failed` says that there is no other way.

The two kinds of starts have different steps, and `Cautious` is what both keep: a refusal has no
deeds, and an attempt that fails has undone what it did. So the part that goes from there to the
state, the events and the notices of the module is done once, for either kind. That nobody goes on
is read off the steps of the parties: when the starter has been told that there is no process, no
other party has been let begin.
-/

namespace Switchyard.Modules.Diagnostics

open Route Supervisor

variable {setup : Setup} {s : State} {e : HandlerError}

/-- What was done to children by a start, if there was one. A request that is refused for its
payload does not get that far. -/
def deedsOf {α : Type} : Except HandlerError (Start α) → List Deed
  | .error _ => []
  | .ok started => started.deeds

/-- What a request for a process of a kind does to children, in order. -/
def deeds (setup : Setup) (data : Option Json) (s : State) : Kind → List Deed
  | .single => deedsOf (startSingle setup (data.getD .null) s)
  | .batch => deedsOf (startSeveral setup (data.getD .null) s)

/-! ### Refusals -/

theorem textField_error {data : Json} {key : String} (h : textField data key = .error e) :
    ∃ text, e = .invalidData text := by
  unfold textField at h
  split at h
  · cases h
  · cases h
    exact ⟨_, rfl⟩

theorem lookup_error {table : Table} {name : String} (h : lookup table name = .error e) :
    ∃ text, e = .invalidData text := by
  unfold lookup at h
  split at h
  · cases h
  · cases h
    exact ⟨_, rfl⟩

theorem lookupAll_error {table : Table} {names : List Json} (h : lookupAll table names = .error e) :
    ∃ text, e = .invalidData text := by
  fun_induction lookupAll table names with
  | case1 => cases h
  | case2 name rest error hname =>
      cases h
      exact lookup_error hname
  | case3 name rest args hname ih => exact ih (error_of_map_eq_error h)
  | case4 =>
      cases h
      exact ⟨_, rfl⟩

/-- A payload that names no command is invalid. -/
theorem requested_error {table : Table} {data : Json} (h : requested table data = .error e) :
    ∃ text, e = .invalidData text := by
  unfold requested at h
  cases hname : textField data "command" with
  | error error =>
      simp only [hname, Except.bind, Except.error.injEq] at h
      exact h ▸ textField_error hname
  | ok name => exact lookup_error (by simpa [hname, Except.bind] using h)

/-- A payload that names no commands is invalid. -/
theorem requestedAll_error {table : Table} {data : Json} (h : requestedAll table data = .error e) :
    ∃ text, e = .invalidData text := by
  unfold requestedAll at h
  split at h
  · exact lookupAll_error h
  · cases h
    exact ⟨_, rfl⟩

theorem lineHandler_error {error : StartError} (h : lineHandler = .error error) :
    error = .badPattern ".*" := by
  unfold lineHandler LineHandler.of at h
  split at h
  · cases h
  · exact (Except.error.inj h).symm

/-! ### Starts -/

/-- What is asked for is refused, or attempted with nothing left of an attempt that fails. A refusal
is for the payload, or for a pattern that cannot be read. -/
structure Cautious {α : Type} (host : Host) (store : Store α)
    (asked : Except HandlerError (Start α)) : Prop where
  refused : ∀ e, asked = .error e →
    (∃ text, e = .invalidData text) ∨ ∃ pattern, e = .start (.badPattern pattern)
  undone : ∀ started, asked = .ok started → started.FailsUndone host store

theorem cautious_startSingle (setup : Setup) (data : Json) (s : State) :
    Cautious setup.host s.commands (startSingle setup data s) := by
  unfold startSingle
  cases hrequested : requested setup.table data with
  | error error =>
      refine ⟨fun e he => .inl ?_, nofun⟩
      cases he
      exact requested_error hrequested
  | ok args =>
      dsimp only
      cases hline : lineHandler with
      | error error =>
          refine ⟨fun e he => .inr ?_, nofun⟩
          cases he
          exact ⟨_, congrArg _ (lineHandler_error hline)⟩
      | ok line =>
          refine ⟨nofun, fun started hstarted => ?_⟩
          cases hstarted
          exact startCommand_undone _ _ _ _ _ _

theorem cautious_startSeveral (setup : Setup) (data : Json) (s : State) :
    Cautious setup.host s.batches (startSeveral setup data s) := by
  unfold startSeveral
  cases hrequested : requestedAll setup.table data with
  | error error =>
      refine ⟨fun e he => .inl ?_, nofun⟩
      cases he
      exact requestedAll_error hrequested
  | ok commands =>
      refine ⟨nofun, fun started hstarted => ?_⟩
      cases hstarted
      exact startBatch_undone _ _ _ _ _

/-! ### Failures -/

/-- How a request for a process can fail. -/
inductive Fails (setup : Setup) (data : Option Json) (s : State) (k : Kind) :
    HandlerError → Prop where
  /-- The payload is of no use. -/
  | refused (text : String)
      (hanswer : handle setup k.action data s = answer s (.error (.invalidData text)))
      (hdeeds : deeds setup data s k = []) : Fails setup data s k (.invalidData text)
  /-- An attempt to start children fails. -/
  | start (error : StartError) (hooked : Bool)
      (hanswer : handle setup k.action data s = answerStart s hooked (.error error))
      (hdeeds : Undone setup.host (deeds setup data s k) error) :
      Fails setup data s k (.start error)

/-- What a cautious start answers when it fails. `place` puts the store back into the state, which
is the state as it was when the store is. -/
theorem fails_of_cautious {α : Type} {data : Option Json} {k : Kind} {store : Store α}
    {asked : Except HandlerError (Start α)} (hasked : Cautious setup.host store asked)
    (place : Store α → State) (hplace : place store = s)
    (hanswer : handle setup k.action data s = answerAsked s place asked)
    (hdeeds : deeds setup data s k = deedsOf asked)
    (h : (handle setup k.action data s).outcome = .failed e) : Fails setup data s k e := by
  cases asked with
  | error error =>
      rw [hanswer] at h
      cases h
      rcases hasked.refused e rfl with ⟨text, rfl⟩ | ⟨pattern, rfl⟩
      · exact .refused text hanswer hdeeds
      · exact .start (.badPattern pattern) false hanswer (hdeeds ▸ .nothing nofun nofun)
  | ok started =>
      dsimp only [answerAsked, deedsOf] at hanswer hdeeds
      cases hresult : started.result with
      | ok u => simp [hanswer, hresult, answerStart] at h
      | error error =>
          obtain ⟨hstore, hchildren⟩ := hasked.undone started rfl error hresult
          rw [hstore, hplace, hresult] at hanswer
          rw [hanswer] at h
          cases h
          exact .start error started.hooked hanswer (hdeeds ▸ hchildren)

/-- A request for a process fails in no other way. -/
theorem fails_of_failed {data : Option Json} {k : Kind}
    (h : (handle setup k.action data s).outcome = .failed e) : Fails setup data s k e := by
  cases k with
  | single =>
      exact fails_of_cautious (cautious_startSingle setup (data.getD .null) s)
        (fun store => { s with commands := store }) rfl rfl rfl h
  | batch =>
      exact fails_of_cautious (cautious_startSeveral setup (data.getD .null) s)
        (fun store => { s with batches := store }) rfl rfl rfl h

/-- Once the starter knows that a process was not started, nobody can go on: the record is as it was
and not stored, and no handler has run. -/
def Kind.Stuck (error : StartError) : Kind → Prop
  | .single => ∀ id handlers, ∃ w, (Watch.start id handlers).step (.spawn (.error error)) = some w ∧
      w.record = .start id ∧ w.stored = false ∧ w.reports = [] ∧ ∀ event, w.step event = none
  | .batch => ∀ id react, ∃ b, (Batch.start id react).step (.spawn (.error error)) = some b ∧
      b.record = .start id ∧ b.stored = false ∧ b.results = [] ∧ b.reports = [] ∧
        ∀ event, b.step event = none

theorem Kind.stuck (error : StartError) (k : Kind) : k.Stuck error := by
  cases k with
  | single =>
      intro id handlers
      exact ⟨_, rfl, rfl, rfl, rfl, Watch.over_of_refused rfl rfl⟩
  | batch =>
      intro id react
      exact ⟨_, rfl, rfl, rfl, rfl, rfl, Batch.over_of_refused rfl rfl⟩

/-- What is left of a request for a process that failed. -/
structure LeavesNoTrace (setup : Setup) (data : Option Json) (s : State) (k : Kind)
    (e : HandlerError) : Prop where
  /-- Both stores are as they were, and so is everything else. -/
  state : (handle setup k.action data s).state = s
  /-- No event is sent, now or with the answer. -/
  raised : (handle setup k.action data s).raised = []
  posted : ∀ notice ∈ (handle setup k.action data s).posted, notice = .reset
  /-- If the error is that a child could not be started, all those before it were killed and waited
  for, where the system can do that. -/
  stopped : ∀ program error, e = .start (.spawn program error) →
    (∀ child, setup.host.kill child = .ok ()) → (∀ child, setup.host.reap child = .ok ()) →
    ∃ n, deeds setup data s k =
      (List.range n).map (.start · (.ok ())) ++ .start n (.error (.spawn program error)) ::
        (List.range n).flatMap fun child => [.kill child (.ok ()), .reap child (.ok ())]
  /-- If the error is that the worker was lost, no child had failed: the system had no thread for
  the output of the last one. It killed all of them when the worker ended. -/
  lost : e = .start .workerLost → ∃ n error, setup.host.collect n = .error error ∧
    deeds setup data s k =
      (List.range (n + 1)).map (.start · (.ok ())) ++ (List.range (n + 1)).map .abandon
  /-- After any other error no child was started. -/
  childless : (∀ program error, e ≠ .start (.spawn program error)) → e ≠ .start .workerLost →
    deeds setup data s k = []
  /-- A payload of no use is refused before anything is done. -/
  untouched : ∀ text, e = .invalidData text →
    deeds setup data s k = [] ∧ (handle setup k.action data s).posted = []
  /-- Otherwise nobody goes on with what was begun. -/
  stuck : (∃ text, e = .invalidData text) ∨ ∃ error, e = .start error ∧ k.Stuck error

/-- A table with a program that is not there. -/
def halfInstalled : Setup :=
  ⟨.of fun args => if args = ["up"] then .ok ⟨[], 0, .code 0, 0⟩ else .error .notFound, none,
    [("up", ["up"]), ("gone", ["gone"])], 2⟩

/-- A request for two commands that can be started and one that cannot. -/
def upUpGone : Json :=
  .object [("commands", .array [.string "up", .string "up", .string "gone"])]

/-- The same system with threads for the output of one child only. -/
def threadless : Setup :=
  { halfInstalled with
    host := { halfInstalled.host with
      collector := fun child _ => if child = 0 then .ok () else .error .wouldBlock } }

/-- The second child has no thread for its output, so the worker ends and the third is not tried. -/
example : deeds threadless (some upUpGone) (.initial processId 2) .batch =
    [.start 0 (.ok ()), .start 1 (.ok ()), .abandon 0, .abandon 1] := rfl

end Switchyard.Modules.Diagnostics
