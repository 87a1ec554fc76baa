import Switchyard.Modules.Diagnostics
import Switchyard.Proofs.Supervisor.Fleet

/-!
# Switchyard.Proofs.Modules.Diagnostics

**A process can be polled until as many processes of its kind were started after it as are kept**
(`polls_newest_started`), whatever else was asked meanwhile, whatever has ended, and whatever the
system answered.

* A `Turn` is a request, with what the system answers during it, or time that passes; `started` are
  the ids that the answers to requests of one kind gave, in their order.
* Only a start that succeeds changes which processes of its kind are kept (`runCommand_cases`,
  `runBatch_cases`, `Keeps.after`), and the rest is what the two stores promise, by induction on the
  turns (`Keeps.run`).

That the system may answer otherwise in every turn makes no difference to the proof: what is kept
depends on whether a start succeeded, and not on why it did not. `ask_cases` is the step lemma. It
has three cases, of which each says both which ids the turn gave and what the state is after it, so
that `Keeps.after` can be read off without another look at the handler.
-/

namespace Switchyard.Modules.Diagnostics

open Route Supervisor

/-! ### Turns -/

/-- The two kinds of processes. -/
inductive Kind where
  | single
  | batch
  deriving DecidableEq

/-- The action that starts processes of a kind. -/
def Kind.action : Kind → String
  | .single => "run"
  | .batch => "run_batch"

/-- The ids of the processes of a kind that are kept, the oldest first. -/
def State.kept (s : State) : Kind → List String
  | .single => s.commands.entries.map (·.state.record.id)
  | .batch => s.batches.entries.map (·.state.record.id)

/-- How many processes of a kind are kept. -/
def State.size (s : State) : Kind → Nat
  | .single => s.commands.size
  | .batch => s.batches.size

/-- What happens to the module. -/
inductive Turn where
  /-- Somebody asks for an action, and the system answers like this meanwhile. -/
  | ask (host : Host) (action : String) (data : Option Json)
  /-- Time passes, in which processes run and end. -/
  | pass (ms : Nat)

/-- What the module needs, on a system that answers like this. -/
def Setup.on (host : Host) (setup : Setup) : Setup :=
  { setup with host := host }

/-- The state after a turn. -/
def State.after (setup : Setup) (s : State) : Turn → State
  | .ask host action data => (handle (setup.on host) action data s).state
  | .pass ms => (elapse ms s).1

/-- The state after some turns. -/
def State.run (setup : Setup) (s : State) (turns : List Turn) : State :=
  turns.foldl (State.after setup) s

/-- The id of the process that an answer says it started. -/
def givenId? : Outcome → Option String
  | .returned j => (j.get? "process_id").bind Json.string?
  | .failed _ | .crashed _ _ => none

/-- The id of the process of a kind that a turn starts. -/
def Turn.started? (setup : Setup) (k : Kind) (s : State) : Turn → Option String
  | .ask host action data =>
    if action = k.action then givenId? (handle (setup.on host) action data s).outcome else none
  | .pass _ => none

/-- The ids of the processes of a kind that some turns start, in their order. They are taken from
the answers, so this is what a caller knows. -/
def started (setup : Setup) (k : Kind) : State → List Turn → List String
  | _, [] => []
  | s, turn :: rest => (turn.started? setup k s).toList ++ started setup k (s.after setup turn) rest

/-! ### One request -/

section Requests

variable (setup : Setup) (data : Json) (s : State)

/-- The id in the answer to a start that succeeded. -/
theorem givenId?_answerStart (hooked : Bool) :
    givenId? (answerStart s hooked (.ok ())).outcome = some s.nextId := by
  simp [answerStart, givenId?, Json.get?, Json.lookup?, Json.string?]

/-- A request for a command starts none and leaves everything as it was, or adds one under the id
that it answers. A request that fails at any stage is of the first kind. -/
theorem runCommand_cases :
    givenId? (runCommand setup data s).outcome = none ∧ (runCommand setup data s).state = s ∨
      ∃ t : Timed Watch Supervisor.Event,
        givenId? (runCommand setup data s).outcome = some t.state.record.id ∧
          (runCommand setup data s).state =
            { s with commands := s.commands.add t, ids := s.ids + 1 } := by
  unfold runCommand startSingle
  cases requested setup.table data with
  | error e => exact .inl ⟨rfl, rfl⟩
  | ok args =>
      cases lineHandler with
      | error e => exact .inl ⟨rfl, rfl⟩
      | ok h =>
          dsimp only [answerAsked]
          rcases startCommand_adds setup.host setup.root s.nextId s.now args [h] (some runLimit)
            s.commands with ⟨⟨e, hresult⟩, hstore⟩ | ⟨hresult, t, hid, hstore⟩
          · rw [hresult, hstore]
            exact .inl ⟨rfl, rfl⟩
          · rw [hresult, hstore, givenId?_answerStart]
            exact .inr ⟨t, congrArg some hid.symm, rfl⟩

/-- A request for a batch starts none and leaves everything as it was, or adds one under the id that
it answers. -/
theorem runBatch_cases :
    givenId? (runBatch setup data s).outcome = none ∧ (runBatch setup data s).state = s ∨
      ∃ t : Timed Batch BatchEvent,
        givenId? (runBatch setup data s).outcome = some t.state.record.id ∧
          (runBatch setup data s).state =
            { s with batches := s.batches.add t, ids := s.ids + 1 } := by
  unfold runBatch startSeveral
  cases requestedAll setup.table data with
  | error e => exact .inl ⟨rfl, rfl⟩
  | ok commands =>
      dsimp only [Except.map, answerAsked]
      rcases startBatch_adds setup.host setup.root s.nextId s.now commands resultEntry
        s.batches with ⟨⟨e, hresult⟩, hstore⟩ | ⟨hresult, t, hid, hstore⟩
      · rw [hresult, hstore]
        exact .inl ⟨rfl, rfl⟩
      · rw [hresult, hstore, givenId?_answerStart]
        exact .inr ⟨t, congrArg some hid.symm, rfl⟩

@[simp] theorem state_check : (check setup data s).state = s := by
  unfold check
  cases requested setup.table data with
  | error e => rfl
  | ok args =>
      dsimp only
      cases Supervisor.run setup.host setup.root args (some checkLimit) <;> rfl

/-- A poll succeeds when it names a process that is found, be it running or ended. -/
theorem poll_returned_iff :
    (∃ j, (poll data s).outcome = .returned j) ↔
      ∃ id, textField data "process_id" = .ok id ∧ (s.poll? id).isSome := by
  unfold poll answer
  cases textField data "process_id" with
  | error e => simp
  | ok id => cases hfound : s.poll? id <;> simp [hfound]

/-- A request starts no process and leaves everything as it was, or it adds one process under the id
that it answers. The process goes to the store of its kind, and the other store is not touched. -/
theorem ask_cases (host : Host) (action : String) (data : Option Json) :
    (∀ k, (Turn.ask host action data).started? setup k s = none) ∧
        s.after setup (.ask host action data) = s ∨
      (∃ t : Timed Watch Supervisor.Event,
        (Turn.ask host action data).started? setup .single s = some t.state.record.id ∧
          (Turn.ask host action data).started? setup .batch s = none ∧
          s.after setup (.ask host action data) =
            { s with commands := s.commands.add t, ids := s.ids + 1 }) ∨
      ∃ t : Timed Batch BatchEvent,
        (Turn.ask host action data).started? setup .single s = none ∧
          (Turn.ask host action data).started? setup .batch s = some t.state.record.id ∧
          s.after setup (.ask host action data) =
            { s with batches := s.batches.add t, ids := s.ids + 1 } := by
  by_cases hrun : action = "run"
  · have hhandle :
        handle (setup.on host) action data s = runCommand (setup.on host) (data.getD .null) s := by
      simp [handle, hrun]
    simp only [Turn.started?, State.after, hhandle]
    rcases runCommand_cases (setup.on host) (data.getD .null) s with
      ⟨hnone, hstate⟩ | ⟨t, hid, hstate⟩
    · exact .inl ⟨fun k => by simp [hnone], hstate⟩
    · exact .inr (.inl ⟨t, by simp [Kind.action, hrun, hid], by simp [Kind.action, hrun], hstate⟩)
  by_cases hbatch : action = "run_batch"
  · have hhandle :
        handle (setup.on host) action data s = runBatch (setup.on host) (data.getD .null) s := by
      simp [handle, hbatch]
    simp only [Turn.started?, State.after, hhandle]
    rcases runBatch_cases (setup.on host) (data.getD .null) s with
      ⟨hnone, hstate⟩ | ⟨t, hid, hstate⟩
    · exact .inl ⟨fun k => by simp [hnone], hstate⟩
    · exact .inr (.inr ⟨t, by simp [Kind.action, hbatch], by simp [Kind.action, hbatch, hid],
        hstate⟩)
  -- No other action starts anything.
  refine .inl ⟨fun k => ?_, ?_⟩
  · have hother : action ≠ k.action := by
      cases k
      · exact hrun
      · exact hbatch
    simp [Turn.started?, hother]
  · simp only [State.after, handle, hrun, hbatch, if_false]
    split
    · rfl
    · split
      · exact state_check _ _ s
      · rfl

end Requests

/-! ### Any number of turns -/

/-- Of each kind, the newest of the processes that had these ids are kept. The ids are all that were
given, also of processes that are long gone. -/
structure Keeps (setup : Setup) (ids : Kind → List String) (s : State) : Prop where
  commands : s.commands.Keeps setup.capacity (ids .single)
  batches : s.batches.Keeps setup.capacity (ids .batch)

theorem keeps_initial (setup : Setup) (fresh : Nat → String) :
    Keeps setup (fun _ => []) (.initial fresh setup.capacity) :=
  ⟨Store.keeps_empty, Store.keeps_empty⟩

namespace Keeps

variable {setup : Setup} {ids : Kind → List String} {s : State}

/-- A turn that starts no process leaves what is kept as it is, one that starts a process adds its
id to those of its kind. -/
theorem after (h : Keeps setup ids s) (turn : Turn) :
    Keeps setup (fun k => ids k ++ (turn.started? setup k s).toList) (s.after setup turn) := by
  cases turn with
  | pass ms =>
      simp only [Turn.started?, Option.toList_none, List.append_nil]
      exact ⟨Commands.keeps_advance h.commands (s.now + ms),
        Batches.keeps_advance h.batches (s.now + ms)⟩
  | ask host action data =>
      rcases ask_cases setup s host action data with
        ⟨hnone, hstate⟩ | ⟨t, hid, hnone, hstate⟩ | ⟨t, hnone, hid, hstate⟩
      · simpa [hnone, hstate] using h
      · rw [hstate]
        refine ⟨?_, ?_⟩
        · rw [hid]
          exact h.commands.add t
        · simpa [hnone] using h.batches
      · rw [hstate]
        refine ⟨?_, ?_⟩
        · simpa [hnone] using h.commands
        · rw [hid]
          exact h.batches.add t

theorem run (h : Keeps setup ids s) (turns : List Turn) :
    Keeps setup (fun k => ids k ++ started setup k s turns) (s.run setup turns) := by
  induction turns generalizing ids s with
  | nil => simpa [started, State.run] using h
  | cons turn rest ih =>
      have hrest := ih (h.after turn)
      simpa only [started, State.run, List.foldl_cons, List.append_assoc] using hrest

theorem kept_eq (h : Keeps setup ids s) (k : Kind) :
    s.kept k = newest setup.capacity (ids k) := by
  cases k
  · exact h.commands.entries
  · exact h.batches.entries

theorem size_le (h : Keeps setup ids s) (k : Kind) : s.size k ≤ max setup.capacity 1 := by
  cases k
  · exact h.commands.size_le
  · exact h.batches.size_le

theorem isSome_poll?_iff (h : Keeps setup ids s) (id : String) :
    (s.poll? id).isSome ↔
      ∃ k earlier later, ids k = earlier ++ id :: later ∧
        later.length < max setup.capacity 1 := by
  simp only [State.poll?, Option.isSome_or, Bool.or_eq_true,
    Commands.isSome_poll?_iff h.commands, Batches.isSome_poll?_iff h.batches]
  constructor
  · rintro (h | h)
    · exact ⟨.single, h⟩
    · exact ⟨.batch, h⟩
  · rintro ⟨_ | _, h⟩
    · exact .inl h
    · exact .inr h

end Keeps

/-- **A process can be polled exactly until as many processes of its kind were started after it as
are kept.** After any turns, in each of which the system may answer otherwise, the processes that
are kept of a kind are the newest that were started, in the order in which they were started, and
never more than the capacity; a turn that starts no process of the kind neither drops nor moves any
of them. -/
theorem polls_newest_started (setup : Setup) (fresh : Nat → String) (turns : List Turn) :
    let start := State.initial fresh setup.capacity
    let ids (k : Kind) := started setup k start turns
    let s := start.run setup turns
    (∀ k, s.kept k = newest setup.capacity (ids k)) ∧
      (∀ k, s.size k ≤ max setup.capacity 1) ∧
      (∀ k turn, turn.started? setup k s = none → (s.after setup turn).kept k = s.kept k) ∧
      ∀ data, (∃ j, (handle setup "poll" data s).outcome = .returned j) ↔
        ∃ id, textField (data.getD .null) "process_id" = .ok id ∧
          ∃ k earlier later, ids k = earlier ++ id :: later ∧
            later.length < max setup.capacity 1 := by
  intro start ids s
  have h : Keeps setup ids s := by
    simpa using (keeps_initial setup fresh).run turns
  refine ⟨h.kept_eq, h.size_le, fun k turn hnone => ?_, fun data => ?_⟩
  · rw [(h.after turn).kept_eq, h.kept_eq, hnone, Option.toList_none, List.append_nil]
  · have hpoll : handle setup "poll" data s = poll (data.getD .null) s := rfl
    rw [hpoll, poll_returned_iff]
    simp only [h.isSome_poll?_iff]

/-- Where one batch is kept, the first has gone when the second is started. -/
example :
    let setup : Setup := ⟨.of fun _ => .ok ⟨[], 0, .code 0, 0⟩, none, [("up", ["uptime"])], 1⟩
    let ask : Turn :=
      .ask setup.host "run_batch" (some (.object [("commands", .array [.string "up"])]))
    let start := State.initial (fun n => if n = 0 then "a" else "b") 1
    (started setup .batch start [ask, .pass 10, ask],
      (start.run setup [ask, .pass 10, ask]).kept .batch) = (["a", "b"], ["b"]) := rfl

end Switchyard.Modules.Diagnostics
