import Switchyard.Text.Utf8
import Switchyard.Pattern.Parser
import Switchyard.Pattern.Search
import Switchyard.Supervisor.Failure
import Switchyard.Supervisor.Record

/-!
# Lines of output

Output is cut at line feeds, whatever the pieces in which it arrives; what follows the last line
feed is a line too, unless it is empty. Bytes that are no UTF-8 are replaced within their line.

A `LineHandler` looks for its pattern at the start of every line. All handlers see a line, in their
order, and each may add results to the record and crash; after a crash no handler sees anything
more. Whoever shows the lines does so in small steps, each of them a `Task`, and `workOff` performs
any number of them.
-/

namespace Switchyard.Supervisor

/-! ### Cutting -/

/-- The byte that ends a line. -/
def lineFeed : UInt8 := 10

/-- Takes bytes that arrive after those of an unfinished line, all in reverse, onto the reversed
list of lines. -/
def takeLines (line : Octets) (acc : List Octets) : Octets → List Octets × Octets
  | [] => (acc.reverse, line)
  | b :: rest =>
    if b = lineFeed then takeLines [] (line.reverse :: acc) rest
    else takeLines (b :: line) acc rest

/-- The line that the end of the output completes, if it is not empty. -/
def lastLine (line : Octets) : List Octets :=
  if line.isEmpty then [] else [line.reverse]

/-- The lines of some bytes. -/
def linesOf (s : Octets) : List Octets :=
  let (lines, line) := takeLines [] [] s
  lines ++ lastLine line

/-! ### Handlers -/

/-- What a handler does with a line that matches. -/
structure Reaction where
  /-- The results that it adds, in order. -/
  adds : List Json
  /-- Whether it crashes after that. -/
  crashes : Bool

namespace Reaction

/-- Nothing. -/
def none : Reaction :=
  ⟨[], false⟩

/-- Adds a result. -/
def append (j : Json) : Reaction :=
  ⟨[j], false⟩

/-- Crashes at once. -/
def crash : Reaction :=
  ⟨[], true⟩

end Reaction

/-- Watches the output for lines. -/
structure LineHandler where
  program : Pattern.Program
  /-- Takes what the pattern captured, the whole match first, and the record as it is then. -/
  react : List (Option String) → Record → Reaction

namespace LineHandler

/-- A handler for lines that begin as a pattern says, which takes what the pattern captured. -/
def of (pattern : String) (react : List (Option String) → Reaction) :
    Except StartError LineHandler :=
  match Pattern.ofText? ("^(?:" ++ pattern ++ ")") with
  | some program => .ok ⟨program, fun groups _ => react groups⟩
  | none => .error (.badPattern pattern)

/-- What a handler does with a line. -/
def reaction (h : LineHandler) (line : String) (r : Record) : Reaction :=
  match Pattern.captures? h.program line.toList with
  | some groups => h.react groups r
  | none => .none

end LineHandler

/-! ### Showing lines -/

/-- What comes next when lines are shown. -/
inductive Task where
  /-- Calls a handler with a line. -/
  | call (h : LineHandler) (line : String)
  /-- Adds a result, for the handler that was called. -/
  | add (j : Json)
  /-- Crashes, with the handler that was called. -/
  | crash

/-- What a reaction takes. -/
def Reaction.tasks (a : Reaction) : List Task :=
  a.adds.map .add ++ if a.crashes then [.crash] else []

/-- What it takes to show lines to all handlers, one line after another. -/
def showing (handlers : List LineHandler) (lines : List Octets) : List Task :=
  lines.flatMap fun line =>
    let text := Utf8.decodeLossy line
    handlers.map (.call · text)

/-- The record after some tasks, and whether none of them crashed. -/
def workOff : List Task → Record → Record × Bool
  | [], r => (r, true)
  | .call h line :: rest, r =>
    let a := h.reaction line r
    if a.crashes then (r.appendAll a.adds, false) else workOff rest (r.appendAll a.adds)
  | .add j :: rest, r => workOff rest (r.append j)
  | .crash :: _, r => (r, false)

end Switchyard.Supervisor
