import Switchyard.Route.Module

/-!
# Scripted modules

A module whose behaviour is given as data, for rehearsing a bus without the features behind it:
each action raises events, posts notices and then ends in one fixed way.

The daemon has no such module; a rehearsal registers it in the place of those that come with it.
-/

namespace Switchyard.Rehearsal

open Route

/-- How a scripted action ends. -/
inductive Ending where
  | fail (e : HandlerError)
  | crash (message trace : String)
  /-- Answers the payload of the request, or `null`. -/
  | echo
  | answer (value : Json)

/-- What a scripted action does. -/
structure Script where
  action : Action
  /-- Events that wait for the outcome. -/
  raised : List Event
  /-- Events that are sent at once. -/
  posted : List Event
  /-- Whether the connection to the subscribers is to be reopened. -/
  reset : Bool
  ending : Ending

/-- The outcome of an ending. -/
def Ending.outcome (data : Option Json) : Ending → Outcome
  | fail e => .failed e
  | crash message trace => .crashed message trace
  | echo => .returned (data.getD .null)
  | answer value => .returned value

/-- Performs the script of an action; of several the last counts. -/
def perform (name : String) (scripts : List Script) (action : String) (data : Option Json)
    (s : Unit) : Handling Unit :=
  match scripts.reverse.find? (·.action.name = action) with
  | some script =>
    let posted := script.posted.map (Notice.ofEvent name)
    ⟨s, script.ending.outcome data, script.raised,
      posted ++ (if script.reset then [Notice.reset] else []), 0⟩
  | none => ⟨s, .failed (.failed ("unsupported action '" ++ action ++ "'")), [], [], 0⟩

/-- A module with these scripts. -/
def scripted (name : String) (scripts : List Script) : Module :=
  .passive name (scripts.map (·.action)) () (perform name scripts)

end Switchyard.Rehearsal
