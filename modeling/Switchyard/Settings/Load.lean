import Switchyard.Settings.Variables

/-!
# Loading settings

A setting comes from the command line, or else from the environment, or else keeps its first value.
A value from the environment does no harm where the command line chooses another one. Whether one
worker serves all modules is up to the command line alone.
-/

namespace Switchyard.Settings

/-- Why settings could not be loaded. -/
inductive LoadError where
  | flags (e : Flags.Error)
  | value (c : Json.Cause)

/-- The error in words. -/
def LoadError.message : LoadError → String
  | flags e => e.message
  | value c => c.message

/-- What was chosen for all settings; the command line goes before the environment. -/
def merged (flags environment : Json.Members) : Json.Members :=
  let single := (Json.lookup? "ubus_single" flags).getD (.bool false)
  (flags ++ [("ubus_single", single)]).foldl
    (fun members (key, j) => Json.insertMember key j members) environment

/-- The settings that a command line and an environment choose, on top of others. -/
def load (start : Settings) (args : List String) (environment : List (String × String)) :
    Except LoadError Settings :=
  match Flags.parse args with
  | .error e => .error (.flags e)
  | .ok flags =>
    match (decoder start).value (.object (merged flags (Variables.chosen environment))) with
    | .error c => .error (.value c)
    | .ok s => .ok s

end Switchyard.Settings
