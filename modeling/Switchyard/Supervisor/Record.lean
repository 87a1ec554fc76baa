import Switchyard.Json.Basic

/-!
# Records of supervised commands

* A `Record` is what can be learnt of a command while it runs and afterwards.
* A `Store` keeps the records that were inserted last, up to its capacity. Inserting is all that
  moves or drops a record: looking one up does not, and a record may change after it was dropped.
-/

namespace Switchyard.Supervisor

/-- What is known of a command. -/
structure Record where
  id : String
  /-- The results so far, in order. -/
  records : List Json
  /-- The exit code, once the command has ended. -/
  retval : Int
  exited : Bool

namespace Record

/-- The record of a command that has just begun. -/
def start (id : String) : Record :=
  ⟨id, [], 0, false⟩

/-- Adds a result. -/
def append (j : Json) (r : Record) : Record :=
  { r with records := r.records ++ [j] }

/-- Adds results. -/
def appendAll (js : List Json) (r : Record) : Record :=
  js.foldl (fun r j => r.append j) r

/-- Notes the end of the command. -/
def finish (retval : Int) (r : Record) : Record :=
  { r with retval := retval, exited := true }

/-- The state of the command, without its id. -/
def state (r : Record) : Json.Members :=
  [("records", .array r.records), ("retval", .int r.retval), ("exited", .bool r.exited)]

end Record

/-- The entries that were inserted last. -/
structure Store (α : Type) where
  /-- How many entries are kept; zero counts as one. -/
  capacity : Nat
  /-- Every entry there has been, by number. -/
  made : List α
  /-- The numbers of the entries that are kept, the oldest first. -/
  kept : List Nat

namespace Store

variable {α : Type}

/-- A store without entries. -/
def empty (capacity : Nat) : Store α :=
  ⟨capacity, [], []⟩

/-- The numbers with one more at the end, without the oldest where they would be too many. -/
def admitted (capacity : Nat) (kept : List Nat) (n : Nat) : List Nat :=
  kept.drop (kept.length + 1 - max capacity 1) ++ [n]

/-- Inserts the entry of a number. -/
def insert (n : Nat) (s : Store α) : Store α :=
  { s with kept := admitted s.capacity s.kept n }

/-- Makes an entry without inserting it. -/
def make (a : α) (s : Store α) : Store α :=
  { s with made := s.made ++ [a] }

/-- Makes an entry and inserts it. -/
def add (a : α) (s : Store α) : Store α :=
  (s.make a).insert s.made.length

/-- Changes the entry of a number, kept or not. -/
def update (n : Nat) (f : α → α) (s : Store α) : Store α :=
  { s with made := s.made.modify n f }

/-- The entries that are kept, the oldest first. -/
def entries (s : Store α) : List α :=
  s.kept.filterMap fun n => s.made[n]?

/-- The oldest kept entry with an id. -/
def find? (idOf : α → String) (id : String) (s : Store α) : Option α :=
  s.entries.find? fun a => idOf a = id

/-- The number of the entry with an id that was made last, kept or not. -/
def latest? (idOf : α → String) (id : String) (s : Store α) : Option Nat :=
  (s.made.zipIdx.reverse.find? fun (a, _) => idOf a = id).map (·.2)

/-- How many entries are kept. -/
def size (s : Store α) : Nat :=
  s.kept.length

end Store
end Switchyard.Supervisor
