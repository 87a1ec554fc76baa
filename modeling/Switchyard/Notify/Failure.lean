import Switchyard.Bus.Failure
import Switchyard.Frame

/-!
# Failures of notifications
-/

namespace Switchyard.Notify

/-- Why a notification was not delivered. -/
inductive Error where
  /-- The subscribers' endpoint cannot be connected to. -/
  | connect (endpoint : String) (e : IoError)
  /-- The frame could not be written. -/
  | frame (e : Frame.Error)
  /-- The object bus did not take the event. -/
  | event (e : Bus.Error)
  /-- The client of the broker does not take the publication: its queue is full, or the topic holds
  a wildcard. -/
  | publish
  deriving DecidableEq

namespace Error

/-- The error in words. -/
def message : Error → String
  | connect endpoint e =>
    "failed to connect to notification endpoint " ++ endpoint ++ ": " ++ e.message
  | frame _ => "failed to write notification frame"
  | event _ => "failed to send ubus event"
  | publish => "failed to publish notification"

/-- What is behind the error, in words. -/
def cause? : Error → Option String
  | connect _ e => some e.message
  | frame e => some e.message
  | event e => some e.message
  | publish => none

end Error
end Switchyard.Notify
