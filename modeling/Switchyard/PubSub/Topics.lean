import Switchyard.Octets

/-!
# Topics of the pub/sub bus

Below the root and the id of a controller stand three families of topics: requests, replies and
notifications.

* `request`, `reply` and `notification` build topics, `requestFilter` the subscription for all
  requests to a module.
* `parseRequest?` reads module and action from a request topic of this controller. It takes exactly
  six levels, so a name that holds a slash is never taken.
-/

namespace Switchyard.PubSub

/-- The first level of every topic. -/
def root : String := "cfgbus"

/-- The levels of a topic, which slashes separate. -/
def levels : List Char → List (List Char)
  | [] => [[]]
  | c :: rest =>
    if c = '/' then [] :: levels rest
    else
      match levels rest with
      | [] => [[c]]
      | level :: more => (c :: level) :: more

/-- The topic with these levels. -/
def joinLevels (parts : List String) : String :=
  "/".intercalate parts

/-- The topics of one controller. -/
structure Topics where
  controller : String
  deriving DecidableEq

namespace Topics

/-- The topic that requests for an action are published on. -/
def request (t : Topics) (module action : String) : String :=
  joinLevels [root, t.controller, "request", module, "action", action]

/-- The filter for all requests to a module. -/
def requestFilter (t : Topics) (module : String) : String :=
  joinLevels [root, t.controller, "request", module, "action", "+"]

/-- The topic that the reply to a message is published on. -/
def reply (t : Topics) (messageId : String) : String :=
  joinLevels [root, t.controller, "reply", messageId]

/-- The topic that an event of a module is published on. -/
def notification (t : Topics) (module event : String) : String :=
  joinLevels [root, t.controller, "notification", module, "action", event]

/-- The module and the action of a request topic of this controller. -/
def parseRequest? (t : Topics) (topic : String) : Option (String × String) :=
  match levels topic.toList with
  | [a, b, c, module, d, action] =>
    if a = root.toList ∧ b = t.controller.toList ∧ c = "request".toList ∧ d = "action".toList ∧
        module ≠ [] ∧ action ≠ [] then
      some (String.ofList module, String.ofList action)
    else none
  | _ => none

end Topics
end Switchyard.PubSub
