import Postroom.Monitoring.Collector
import Postroom.Relay.Dispatch

namespace Postroom.Relay

/-!
# The relay queue

Submitted mail waits in a queue from which consumers take it in order. A
shutdown job ends the consumer that takes it; an empty queue that nobody can
add to ends every consumer.
-/

/-- An entry of the relay queue. -/
inductive Job where
  | deliver (email : Email)
  /-- Ends the consumer that takes it. -/
  | shutdown
  deriving Repr, DecidableEq

namespace Job

/-- The email of a job that delivers one. -/
def email? : Job → Option Email
  | .deliver email =>
      some email
  | .shutdown =>
      none

@[simp] theorem email?_deliver (email : Email) :
    (deliver email).email? = some email :=
  rfl

@[simp] theorem email?_shutdown :
    shutdown.email? = none :=
  rfl

end Job

/-- What one consumer did, and the jobs that it left in the queue. -/
structure Shift (State : Type) where
  outcomes : List Outcome
  attempts : List Attempt
  left : List Job
  state : State

namespace Router

/-- Dispatch some emails one after another. -/
def dispatches
    (router : Router)
    (outbound : Outbound State) :
    State →
    List Email →
    List (Dispatch State)
  | _, [] =>
      []
  | state, email :: rest =>
      let done := router.dispatch outbound state email
      done :: dispatches router outbound done.state rest

/-- Take jobs until a shutdown or the end of a queue that nobody adds to. -/
def run
    (router : Router)
    (outbound : Outbound State) :
    State →
    List Job →
    Shift State
  | state, [] =>
      ⟨[], [], [], state⟩
  | state, .shutdown :: left =>
      ⟨[], [], left, state⟩
  | state, .deliver email :: rest =>
      let done := router.dispatch outbound state email
      let later := run router outbound done.state rest
      ⟨done.outcome :: later.outcomes,
        done.attempts ++ later.attempts,
        later.left,
        later.state⟩

end Router

/-- The datagrams that report the successful ones among some attempts. -/
def reportDatagrams (attempts : List Attempt) : List (List UInt8) :=
  attempts.filterMap fun attempt =>
    attempt.report?.bind Monitoring.datagram?

end Postroom.Relay
