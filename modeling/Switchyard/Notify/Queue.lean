import Switchyard.Route.Module

/-!
# The notification queue

Anyone who has a handle of the queue may put a notice in it and goes on at once. One worker hands
the notices to a notifier, in the order in which they came; a notice that the notifier fails at is
lost and does not stop the worker.

To shut the queue down, a last message is put in it, and the worker is waited for. It leaves when it
has got to that message; what was put in behind it goes away with the queue. Once the worker has
gone nothing is put in any more, so neither is the second last message that the end of the shutdown
tries to put in, nor a notice.

`Queue.step` performs one step of a holder of a handle, of the worker or of the shutdown; they come
in any order.
-/

namespace Switchyard.Notify

open Route

/-- What waits in the queue. -/
inductive Message where
  | notice (n : Notice)
  /-- The worker ends here. -/
  | stop

/-- How far the worker is. -/
inductive Worker where
  | running
  /-- It has got to the last message, and the queue is still there. -/
  | leaving
  /-- It has ended, and the queue is no more. -/
  | gone
  deriving DecidableEq

/-- How far the shutdown is. -/
inductive Shutdown where
  /-- It has not begun. -/
  | none
  /-- The last message is in the queue, and the worker is waited for. -/
  | waiting
  /-- The worker has ended. -/
  | joined
  | done
  deriving DecidableEq

/-- A queue and its worker. -/
structure Queue where
  /-- What waits, the oldest first. -/
  waiting : List Message
  worker : Worker
  shutdown : Shutdown
  /-- What was handed to the notifier, and whether it failed. -/
  handed : List (Notice × Bool)

/-- A step of one party. -/
inductive Event where
  /-- The holder of a handle puts a notice in the queue. -/
  | send (who : Nat) (n : Notice)
  /-- The worker takes the oldest message; the notifier may fail at it. -/
  | take (fails : Bool)
  /-- The worker ends. -/
  | leave
  /-- The shutdown begins. -/
  | stop
  /-- The shutdown finds that the worker has ended. -/
  | join
  /-- The shutdown ends, with another last message. -/
  | drop

namespace Queue

/-- A queue that has just been started. -/
def start : Queue :=
  ⟨[], .running, .none, []⟩

/-- Puts a message in the queue, unless it is no more. -/
def put (m : Message) (q : Queue) : Queue :=
  if q.worker = .gone then q else { q with waiting := q.waiting ++ [m] }

/-- One step, where it is possible. -/
def step (q : Queue) : Event → Option Queue
  | .send _ n => some (q.put (.notice n))
  | .take fails =>
    if q.worker = .running then
      match q.waiting with
      | [] => none
      | .notice n :: rest => some { q with waiting := rest, handed := q.handed ++ [(n, fails)] }
      | .stop :: rest => some { q with waiting := rest, worker := .leaving }
    else none
  | .leave => if q.worker = .leaving then some { q with waiting := [], worker := .gone } else none
  | .stop => if q.shutdown = .none then some { q.put .stop with shutdown := .waiting } else none
  | .join =>
    if q.shutdown = .waiting ∧ q.worker = .gone then some { q with shutdown := .joined } else none
  | .drop => if q.shutdown = .joined then some { q.put .stop with shutdown := .done } else none

/-- The states that a queue can get into, with the steps that led there. -/
inductive Reachable : List Event → Queue → Prop where
  | start : Reachable [] start
  | step {trace : List Event} {q r : Queue} (e : Event) :
      Reachable trace q → q.step e = some r → Reachable (trace ++ [e]) r

end Queue
end Switchyard.Notify
