import Switchyard.Lock.Settle

/-!
# Named parties of a lock

A crew is a lock and the sections that named members asked for. A member may keep its section until
it releases it, or leave as soon as it has been in it. After each command the lock runs until
nothing moves, and a report tells who is where.

Crews are for rehearsals: they play the threads that use the lock.
-/

namespace Switchyard.Lock

/-- What a member asks for. -/
inductive Command where
  /-- A section, which is kept or left at once. -/
  | acquire (mode : Mode) (keep : Bool)
  /-- Leaves the section that was kept last. -/
  | release
  deriving DecidableEq

/-- The word for a command: the access, with `with_` in front if the section is left at once. -/
def Command.word : Command → String
  | .acquire .read keep => if keep then "read" else "with_read"
  | .acquire .write keep => if keep then "write" else "with_write"
  | .release => "release"

/-- The command that a word stands for. -/
def Command.ofWord? (w : String) : Option Command :=
  [Command.acquire .read true, .acquire .write true, .acquire .read false, .acquire .write false,
    .release].find? fun c => c.word = w

/-- A section that was asked for. -/
structure Ask where
  member : String
  command : Command
  /-- The place of its party. -/
  place : Nat
  /-- Whether the section is kept. -/
  keeps : Bool

/-- A lock and the sections that have not been left. -/
structure Crew where
  state : State
  asks : List Ask

/-- What a command led to. -/
structure Report where
  /-- Whose commands were completed. -/
  finished : List String
  /-- The sections that are kept, in the order in which they were asked for. -/
  held : List Ask
  /-- The sections that are waited for. -/
  waiting : List Ask

/-- The sections that each member keeps. -/
def Report.holdings (r : Report) : List (String × List Command) :=
  (r.held.map (·.member)).eraseDups.map fun who =>
    (who, (r.held.filter fun a => a.member = who).map (·.command))

namespace Crew

/-- A free lock. -/
def start (kind : LockKind) : Crew :=
  ⟨.start kind [], []⟩

/-- How far the party of a section is. -/
def stage (c : Crew) (a : Ask) : Stage :=
  ((c.state.parties[a.place]?).map (·.stage)).getD .idle

/-- Whether a section is held. -/
def holds (c : Crew) (a : Ask) : Bool :=
  a.keeps && (c.stage a = .reading || c.stage a = .writing)

/-- Whether a member has what it asked for. -/
def completed (c : Crew) (a : Ask) : Bool :=
  c.holds a || c.stage a = .idle

/-- Notes a command. -/
def note (member : String) (command : Command) (c : Crew) : Crew :=
  match command with
  | .acquire mode keep =>
    ⟨c.state.join mode, c.asks ++ [⟨member, command, c.state.parties.length, keep⟩]⟩
  | .release =>
    match c.asks.reverse.find? fun a => a.member = member && c.holds a with
    | some last =>
      { c with
        asks := c.asks.map fun a => if a.place = last.place then { a with keeps := false } else a }
    | none => c

/-- Lets the lock run until nothing moves. -/
def settle (c : Crew) : Crew :=
  { c with state := c.state.settle fun i => c.asks.any fun a => a.place = i && a.keeps }

/-- Performs a command of a member. -/
def perform (member : String) (command : Command) (c : Crew) : Crew × Report :=
  let d := (c.note member command).settle
  let before (a : Ask) := c.asks.any fun b => b.place = a.place && c.completed b
  let finished := (d.asks.filter fun a => d.completed a && !before a).map (·.member)
  let finished := if command = .release then member :: finished else finished
  ({ d with asks := d.asks.filter fun a => d.stage a ≠ .idle },
    ⟨finished.eraseDups, d.asks.filter d.holds, d.asks.filter fun a => !d.completed a⟩)

end Crew
end Switchyard.Lock
