import Postroom.Access.Session
import Postroom.Submission.Session

namespace Postroom

/-!
# Houses

A house is one mail room together with every session that works on it: any
number of submitting clients and any number of visiting users, told apart by
numbers. What the sessions do is one sequence of events in the order in which
the room saw them, however the sessions interleave.
-/

/-- Give one number of a family another value. -/
def update
    (family : Nat → α)
    (number : Nat)
    (value : α) :
    Nat → α :=
  fun other => if other = number then value else family other

@[simp] theorem update_same
    (family : Nat → α)
    (number : Nat)
    (value : α) :
    update family number value number = value := by
  simp [update]

theorem update_other
    {family : Nat → α}
    {number other : Nat}
    {value : α}
    (different : other ≠ number) :
    update family number value other = family other := by
  simp [update, different]

/-- A mail room with the sessions that share it. -/
structure House where
  room : MailRoom
  submissions : Nat → Submission.Session
  accesses : Nat → Access.Session

/-- What happens in a house. -/
inductive Event where
  /-- A line of a submitting client. -/
  | submission (client : Nat) (line : String)
  /-- A line of a visiting user. -/
  | access (visitor : Nat) (line : String)
  /-- A message that is put into a mailbox from outside. -/
  | deposit (user : String) (email : Email)
  deriving Repr, DecidableEq

namespace House

/-- The house in which nobody has said anything yet. -/
def opened (room : MailRoom) : House :=
  ⟨room, fun _ => .start, fun _ => .start⟩

/-- Let a submission session be in another state. -/
def setSubmission
    (house : House)
    (client : Nat)
    (session : Submission.Session) :
    House :=
  { house with
    submissions := update house.submissions client session }

/-- Let an access session be in another state. -/
def setAccess
    (house : House)
    (visitor : Nat)
    (session : Access.Session) :
    House :=
  { house with accesses := update house.accesses visitor session }

/-- Let the store be in another state. -/
def setStore
    (house : House)
    (store : Mailbox.Store) :
    House :=
  { house with room := { house.room with store := store } }

/-- Answer a line of a submitting client. -/
def answerSubmission
    (house : House)
    (client : Nat)
    (line : String) :
    Submission.Answer × House :=
  let answer := (house.submissions client).process house.room line
  (answer,
    { house.setSubmission client answer.session with
      room := answer.room })

/-- Answer a line of a visiting user. -/
def answerAccess
    (house : House)
    (visitor : Nat)
    (line : String) :
    Access.Answer × House :=
  let answer :=
    (house.accesses visitor).process
      house.room.users house.room.store line
  (answer, (house.setAccess visitor answer.session).setStore answer.store)

/-- Put a message into a mailbox. -/
def deposit
    (house : House)
    (user : String)
    (email : Email) :
    Mailbox.MessageId × House :=
  let (identifier, later) := house.room.store.deposit user email
  (identifier, house.setStore later)

/-- The house after an event. -/
def after (house : House) : Event → House
  | .submission client line =>
      (house.answerSubmission client line).2
  | .access visitor line =>
      (house.answerAccess visitor line).2
  | .deposit user email =>
      (house.deposit user email).2

/-- The house after some events. -/
def afterAll
    (house : House)
    (events : List Event) :
    House :=
  events.foldl after house

@[simp] theorem afterAll_nil (house : House) :
    house.afterAll [] = house :=
  rfl

@[simp] theorem afterAll_cons
    (house : House)
    (event : Event)
    (events : List Event) :
    house.afterAll (event :: events) =
      (house.after event).afterAll events :=
  rfl

theorem afterAll_append
    (house : House)
    (earlier later : List Event) :
    house.afterAll (earlier ++ later) =
      (house.afterAll earlier).afterAll later := by
  simp [afterAll]

end House

end Postroom
