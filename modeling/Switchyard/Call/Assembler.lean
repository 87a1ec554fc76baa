import Switchyard.Json.Reader

/-!
# Assembling chunked payloads

A payload may come in chunks over several calls that share a request id.

* An id is *live* while chunks are still expected, and *retired* once its last chunk has come,
  whether the chunks made an object or not. A retired id is never used again.
* `feed` takes one chunk. What it answers depends on the earlier chunks of the same id only.
-/

namespace Switchyard.Call

/-- What feeding a chunk gives. -/
inductive Feed where
  /-- More chunks are expected. -/
  | pending
  /-- The chunks spell this object. -/
  | complete (payload : Json)
  /-- The chunks cannot be used. -/
  | failed

/-- The chunks of every id. -/
structure Assembler where
  /-- The text so far of each live id. -/
  live : List (String × String)
  /-- The ids that are used up. -/
  retired : List String

namespace Assembler

/-- No chunk has come yet. -/
def empty : Assembler :=
  ⟨[], []⟩

/-- How many ids are live. -/
def pending (a : Assembler) : Nat :=
  a.live.length

/-- The text so far of an id. -/
def text (a : Assembler) (id : String) : String :=
  ((a.live.find? (·.1 = id)).map (·.2)).getD ""

/-- The live ids without one of them. -/
def others (a : Assembler) (id : String) : List (String × String) :=
  a.live.filter (·.1 ≠ id)

/-- What a whole text gives: it must spell an object. -/
def conclude (text : String) : Feed :=
  match Json.parse? (Utf8.encode text) with
  | some (.object members) => .complete (.object members)
  | _ => .failed

/-- Takes a chunk of an id; `last` says that no more will come. -/
def feed (a : Assembler) (id : Option String) (chunk : String) (last : Bool) : Feed × Assembler :=
  match id with
  | none => (.failed, a)
  | some id =>
    if id.isEmpty ∨ a.retired.contains id then (.failed, a)
    else
      let text := a.text id ++ chunk
      if last then (conclude text, ⟨a.others id, id :: a.retired⟩)
      else (.pending, ⟨(id, text) :: a.others id, a.retired⟩)

end Assembler
end Switchyard.Call
