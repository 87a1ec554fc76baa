/-!
# A lock for readers and writers

Any number of parties read or write, one section after another. They share three things: a permit
that one writer has, a gate that everyone passes through, and the number of readers.

* A reader takes the gate, counts itself in and gives the gate back; when it leaves it counts itself
  out.
* A writer takes the permit and the gate, waits until no reader is left, and keeps both until it
  leaves. So it lets no reader in from the moment it has the gate.
* `State.step` performs one step of one party; steps of different parties come in any order.

The permit and the gate are made in one of two ways. Between threads a party that finds one of them
taken goes to sleep, and whoever gives it back wakes one of the sleepers afterwards. Between
processes a party that finds it taken simply cannot go on. A writer that finds readers goes to sleep
in both ways, and the last reader wakes all such writers. A sleeper may also wake by itself.
-/

namespace Switchyard

/-- Between whom a lock is shared. -/
inductive LockKind where
  | thread
  | process
  deriving DecidableEq

namespace Lock

/-- What a section does. -/
inductive Mode where
  | read
  | write
  deriving DecidableEq

/-- What only one party can have. -/
inductive Permit where
  /-- The right to be the next writer. -/
  | turn
  /-- The gate. -/
  | gate
  deriving DecidableEq

/-- How far a party is. -/
inductive Stage where
  /-- Between two sections. -/
  | idle
  /-- A reader before the gate. -/
  | entering
  /-- A reader that has the gate and is not counted yet. -/
  | counting
  /-- A reader that is counted and still has the gate. -/
  | passing
  /-- A reader that gave the gate back and still has to wake a sleeper. -/
  | passed
  /-- In the section of a reader. -/
  | reading
  /-- A writer before its turn. -/
  | queueing
  /-- A writer before the gate. -/
  | closing
  /-- A writer that has the gate and waits for the readers. -/
  | draining
  /-- In the section of a writer. -/
  | writing
  /-- A writer that gave the gate back and still has to wake a sleeper. -/
  | opened
  /-- A writer that still has its turn. -/
  | yielding
  /-- A writer that gave its turn back and still has to wake a sleeper. -/
  | yielded
  deriving DecidableEq

/-- The permit that a party takes next, if that is what it does next. -/
def Stage.wants : Stage → Option Permit
  | .entering | .closing => some .gate
  | .queueing => some .turn
  | _ => none

/-- One party. -/
structure Party where
  stage : Stage
  asleep : Bool
  /-- The sections to come. -/
  todo : List Mode
  deriving DecidableEq

/-- A party before its first section. -/
def Party.start (todo : List Mode) : Party :=
  ⟨.idle, false, todo⟩

/-- Whether a party sleeps until a permit is given back. -/
def Party.awaits (permit : Permit) (p : Party) : Bool :=
  p.asleep && p.stage.wants = some permit

/-- A lock and its parties. -/
structure State where
  kind : LockKind
  /-- Whether a writer has its turn. -/
  turnTaken : Bool
  gateTaken : Bool
  /-- How many readers are counted. -/
  readers : Nat
  parties : List Party

namespace State

/-- A free lock. -/
def start (kind : LockKind) (parties : List Party) : State :=
  ⟨kind, false, false, 0, parties⟩

/-- Whether a permit is taken. -/
def taken (s : State) : Permit → Bool
  | .turn => s.turnTaken
  | .gate => s.gateTaken

/-- Takes a permit or gives it back. -/
def setTaken (b : Bool) (permit : Permit) (s : State) : State :=
  match permit with
  | .turn => { s with turnTaken := b }
  | .gate => { s with gateTaken := b }

/-- Puts a party in a place. -/
def put (i : Nat) (p : Party) (s : State) : State :=
  { s with parties := s.parties.set i p }

/-- Wakes the party in a place. -/
def wake (i : Nat) (s : State) : State :=
  { s with parties := s.parties.modify i fun p => { p with asleep := false } }

/-- Wakes all writers that wait for the readers. -/
def wakeDraining (s : State) : State :=
  { s with parties := s.parties.map fun p =>
      if p.stage = .draining then { p with asleep := false } else p }

/-- Whether a sleeper may be chosen to be woken after a permit was given back: one that awaits it,
and nobody only where nobody does. Between processes nobody sleeps for a permit. -/
def mayWake (permit : Permit) (chosen : Option Nat) (s : State) : Bool :=
  match s.kind, chosen with
  | .process, none => true
  | .process, some _ => false
  | .thread, none => !s.parties.any (·.awaits permit)
  | .thread, some j => (s.parties[j]?).any (·.awaits permit)

/-- Wakes the sleeper that was chosen. -/
def wakeChosen (chosen : Option Nat) (s : State) : State :=
  match chosen with
  | some j => s.wake j
  | none => s

/-! ### Steps -/

/-- The party in a place tries to take a permit. -/
def acquire (i : Nat) (p : Party) (permit : Permit) (next : Stage) (s : State) : Option State :=
  if s.taken permit then
    match s.kind with
    | .thread => some (s.put i { p with asleep := true })
    | .process => none
  else some ((s.setTaken true permit).put i { p with stage := next })

/-- The party in a place tells a sleeper that a permit was given back. -/
def announce (i : Nat) (p : Party) (permit : Permit) (chosen : Option Nat) (next : Stage)
    (s : State) : Option State :=
  if s.mayWake permit chosen then some ((s.put i { p with stage := next }).wakeChosen chosen)
  else none

/-- The next step of a party that is awake. Only where it wakes a sleeper is there one to choose. -/
def advance (i : Nat) (p : Party) (chosen : Option Nat) (s : State) : Option State :=
  match p.stage with
  | .idle =>
    match p.todo with
    | [] => none
    | .read :: todo => some (s.put i { p with stage := .entering, todo := todo })
    | .write :: todo => some (s.put i { p with stage := .queueing, todo := todo })
  | .entering => s.acquire i p .gate .counting
  | .counting => some ({ s with readers := s.readers + 1 }.put i { p with stage := .passing })
  | .passing => some ((s.setTaken false .gate).put i { p with stage := .passed })
  | .passed => s.announce i p .gate chosen .reading
  | .reading =>
    let s := { s with readers := s.readers - 1 }.put i { p with stage := .idle }
    some (if s.readers = 0 then s.wakeDraining else s)
  | .queueing => s.acquire i p .turn .closing
  | .closing => s.acquire i p .gate .draining
  | .draining =>
    if s.readers = 0 then some (s.put i { p with stage := .writing })
    else some (s.put i { p with asleep := true })
  | .writing => some ((s.setTaken false .gate).put i { p with stage := .opened })
  | .opened => s.announce i p .gate chosen .yielding
  | .yielding => some ((s.setTaken false .turn).put i { p with stage := .yielded })
  | .yielded => s.announce i p .turn chosen .idle

/-- A step of one party. -/
inductive Event where
  /-- The party in a place goes on, and may have to wake a sleeper. -/
  | go (i : Nat) (chosen : Option Nat)
  /-- A sleeper wakes by itself. -/
  | stir (i : Nat)

/-- One step, where it is possible. -/
def step (s : State) : Event → Option State
  | .go i chosen =>
    match s.parties[i]? with
    | some p => if p.asleep then none else s.advance i p chosen
    | none => none
  | .stir i =>
    match s.parties[i]? with
    | some p => if p.asleep then some (s.wake i) else none
    | none => none

/-- The states that a lock with these parties can get into. -/
inductive Reachable (kind : LockKind) (parties : List Party) : State → Prop where
  | start : Reachable kind parties (start kind parties)
  | step {s t : State} (e : Event) : Reachable kind parties s → s.step e = some t →
      Reachable kind parties t

end State
end Lock
end Switchyard
