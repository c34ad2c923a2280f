import Postroom.Relay.Queue

namespace Postroom.Relay

/-!
# Crews of consumers

Several consumers take jobs from one relay queue. A waiting consumer takes the
job at the head; a relaying one finishes its email; a shutdown ends the
consumer that takes it. Which consumer moves next is not determined, so a run
is a list of moves, each of which has to be possible.
-/

/-- What a consumer is doing. -/
inductive Consumer where
  | waiting
  | relaying (email : Email)
  | ended
  deriving Repr, DecidableEq

/-- Consumers with their queue and the emails that they have relayed. -/
structure Crew where
  queue : List Job
  consumers : List Consumer
  /-- The relayed emails in the order in which they were finished. -/
  relayed : List Email
  deriving Repr, DecidableEq

/-- A step of one consumer. -/
inductive Move where
  | take (consumer : Nat)
  | finish (consumer : Nat)
  deriving Repr, DecidableEq

namespace Crew

/-- Some waiting consumers in front of a queue. -/
def start
    (size : Nat)
    (queue : List Job) :
    Crew :=
  ⟨queue, List.replicate size .waiting, []⟩

/-- Let a consumer do something else. -/
def setConsumer
    (crew : Crew)
    (number : Nat)
    (consumer : Consumer) :
    Crew :=
  { crew with consumers := crew.consumers.set number consumer }

/-- The crew after a move, if the move is possible. -/
def step? (crew : Crew) : Move → Option Crew
  | .take number =>
      match crew.consumers[number]?, crew.queue with
      | some .waiting, .deliver email :: rest =>
          some { crew.setConsumer number (.relaying email) with
            queue := rest }
      | some .waiting, .shutdown :: rest =>
          some { crew.setConsumer number .ended with queue := rest }
      | _, _ =>
          none
  | .finish number =>
      match crew.consumers[number]? with
      | some (.relaying email) =>
          some { crew.setConsumer number .waiting with
            relayed := crew.relayed ++ [email] }
      | _ =>
          none

/-- The crew after some moves, if all of them are possible. -/
def run?
    (crew : Crew)
    (moves : List Move) :
    Option Crew :=
  moves.foldlM step? crew

/-- Whether no consumer can move. -/
def IsStuck (crew : Crew) : Prop :=
  ∀ move, crew.step? move = none

@[simp] theorem run?_nil (crew : Crew) :
    crew.run? [] = some crew :=
  rfl

@[simp] theorem run?_cons
    (crew : Crew)
    (move : Move)
    (moves : List Move) :
    crew.run? (move :: moves) =
      (crew.step? move).bind fun next => next.run? moves :=
  rfl

end Crew

end Postroom.Relay
