import Postroom.Proofs.Access.Refusals
import Postroom.Proofs.House.Deeds
import Postroom.Proofs.Submission.Transcript

namespace Postroom

/-!
# Sessions do not affect each other

The sessions of a house share a room, and still each of them goes on as if
nobody else were there. A submission session depends on the room only through
the way that its mail goes and through the users, and these never change. What
an access session answers depends on the store; what becomes of the session
does not.
-/

namespace Submission.Session

/-- An answer depends on a room only through the way of its mail and the users. -/
theorem process_congr
    (session : Session)
    {room other : MailRoom}
    (intake : other.intake = room.intake)
    (users : other.users = room.users)
    (line : String) :
    (session.process other line).result = (session.process room line).result ∧
      (session.process other line).session =
        (session.process room line).session := by
  cases handed : session.handed? line with
  | none =>
      rw [process_of_not_handed handed (MailRoom.accept_congr intake users)]
      exact ⟨rfl, rfl⟩
  | some email =>
      rw [process_of_handed handed, process_of_handed handed,
        MailRoom.deliver, MailRoom.deliver, intake]
      cases room.intake <;> exact ⟨rfl, rfl⟩

end Submission.Session

namespace Access

/-- What becomes of a session is for the users and its own commands to say. -/
def Session.next
    (users : UserTable) :
    Session → Command → Session
  | .unauthenticated, .login user password =>
      if users.find? user = some password then
        .authenticated user
      else
        .closed
  | .authenticated _, .logout =>
      .unauthenticated
  | .authenticated user, .list | .authenticated user, .showMail _ |
    .authenticated user, .delete _ =>
      .authenticated user
  | _, _ =>
      .closed

section Rules

variable
  {session next : Session}
  {users : UserTable}
  {store later : Mailbox.Store}
  {command : Command}

/-- A command that succeeds leaves the session that it is bound to leave. -/
theorem Succeeds.session_eq
    {reply : Reply}
    (succeeds : Succeeds session users store command reply next later) :
    next = session.next users command := by
  cases succeeds with
  | quit =>
      cases session <;> rfl
  | login visitor verified =>
      rw [visitor, Session.next, if_pos verified]
      rfl
  | list visitor | showMail visitor | delete visitor | logout visitor =>
      rw [visitor]
      rfl

/-- So does a command that is refused, whatever it is refused for. -/
theorem Fails.session_eq
    {error : Error}
    (fails : Fails session users store command error) :
    (if error.endsSession then session.close else session) =
      session.next users command := by
  cases fails with
  | @login user password failure visitor refused =>
      have unknown : users.find? user ≠ some password := by
        rw [Ne, ← UserTable.verify_eq_ok_iff, refused]
        simp
      rw [visitor, Session.next, if_neg unknown]
      cases failure <;> rfl
  | list visitor absent =>
      rw [visitor]
      rfl
  | showMail visitor unfound | delete visitor unfound =>
      rw [visitor, unfound.endsSession]
      rfl
  | unsupported unsupported =>
      cases session <;> cases command <;> first | rfl | cases unsupported

end Rules

/-- The session behind a line does not depend on the store. -/
theorem Session.session_process
    (session : Session)
    (users : UserTable)
    (store : Mailbox.Store)
    (line : String) :
    (session.process users store line).session =
      session.next users (Command.ofLine line) := by
  rcases session.process_cases users store line with
    ⟨command, reply, next, later, rfl, succeeds, answer⟩ |
    ⟨error, failed, answer⟩
  · rw [answer]
    exact succeeds.session_eq
  · rw [answer]
    exact (perform_eq_error_iff.1 failed).session_eq

end Access

/-- Whoever is connected to a house. -/
inductive Party where
  | client (number : Nat)
  | visitor (number : Nat)
  deriving Repr, DecidableEq

/-- Whether an event is a line of a party. -/
def Event.isOf (party : Party) : Event → Bool
  | .submission client _ =>
      party == .client client
  | .access visitor _ =>
      party == .visitor visitor
  | .deposit .. =>
      false

namespace House

/-- What some events show to an observer of single events, in order. -/
def trace
    (view : House → Event → Option α)
    (house : House) :
    List Event → List α
  | [] =>
      []
  | event :: rest =>
      (view house event).toList ++ (house.after event).trace view rest

/--
What an observer sees of some events is what it sees of its own among them,
provided that the other events keep the house like the one in which they do
not happen.
-/
theorem trace_filter
    {view : House → Event → Option α}
    {isOwn : Event → Bool}
    (Alike : House → House → Prop)
    (aside :
      ∀ {house other event}, Alike house other → isOwn event = false →
        view house event = none ∧ Alike (house.after event) other)
    (together :
      ∀ {house other event}, Alike house other → isOwn event = true →
        view house event = view other event ∧
          Alike (house.after event) (other.after event))
    {house other : House}
    (alike : Alike house other)
    (events : List Event) :
    house.trace view events = other.trace view (events.filter isOwn) ∧
      Alike (house.afterAll events)
        (other.afterAll (events.filter isOwn)) := by
  induction events generalizing house other with
  | nil =>
      exact ⟨rfl, alike⟩
  | cons event rest inductionHypothesis =>
      cases own : isOwn event with
      | false =>
          obtain ⟨unseen, later⟩ := aside alike own
          rw [List.filter_cons_of_neg (by simp [own]), trace, unseen]
          exact inductionHypothesis later
      | true =>
          obtain ⟨seen, later⟩ := together alike own
          rw [List.filter_cons_of_pos own, trace, trace, seen]
          obtain ⟨rest, last⟩ := inductionHypothesis later
          exact ⟨by rw [rest], last⟩

section Clients

/-- The answer to a line of a client, and the session behind it. -/
def hear
    (client : Nat)
    (house : House) :
    Event → Option (Except Submission.Error Reply × Submission.Session)
  | .submission speaker line =>
      if speaker = client then
        let answer := (house.answerSubmission speaker line).1
        some (answer.result, answer.session)
      else
        none
  | .access .. | .deposit .. =>
      none

/-- Two houses between which a client cannot tell. -/
structure AlikeToClient
    (client : Nat)
    (house other : House) : Prop where
  session :
    house.submissions client = other.submissions client
  intake :
    house.room.intake = other.room.intake
  users :
    house.room.users = other.room.users

namespace AlikeToClient

variable
  {client : Nat}
  {house other : House}
  {event : Event}
  (alike : AlikeToClient client house other)

include alike

/-- What is not a line of the client passes by unheard. -/
theorem aside (foreign : event.isOf (.client client) = false) :
    house.hear client event = none ∧
      AlikeToClient client (house.after event) other := by
  obtain ⟨intake, users⟩ := house.intake_users_after event
  have room := intake.trans alike.intake
  have known := users.trans alike.users
  cases event with
  | submission speaker line =>
      have different : client ≠ speaker := by
        simpa [Event.isOf] using foreign
      refine ⟨if_neg different.symm, ?_, room, known⟩
      exact (update_other different).trans alike.session
  | access visitor line =>
      exact ⟨rfl, alike.session, room, known⟩
  | deposit user email =>
      exact ⟨rfl, alike.session, room, known⟩

/-- A line of the client is answered alike. -/
theorem together (own : event.isOf (.client client) = true) :
    house.hear client event = other.hear client event ∧
      AlikeToClient client (house.after event) (other.after event) := by
  obtain ⟨intake, users⟩ := house.intake_users_after event
  obtain ⟨otherIntake, otherUsers⟩ := other.intake_users_after event
  have room :
      (house.after event).room.intake = (other.after event).room.intake := by
    rw [intake, otherIntake, alike.intake]
  have known :
      (house.after event).room.users = (other.after event).room.users := by
    rw [users, otherUsers, alike.users]
  cases event with
  | submission speaker line =>
      obtain rfl : client = speaker := by
        simpa [Event.isOf] using own
      obtain ⟨result, session⟩ :=
        (other.submissions client).process_congr
          alike.intake alike.users line
      have answers :
          (house.answerSubmission client line).1.result =
              (other.answerSubmission client line).1.result ∧
            (house.answerSubmission client line).1.session =
              (other.answerSubmission client line).1.session := by
        simp only [answerSubmission, alike.session, result, session,
          and_self]
      refine ⟨?_, ?_, room, known⟩
      · simp only [hear, ↓reduceIte, answers]
      · exact (update_same ..).trans
          (answers.2.trans (update_same ..).symm)
  | access visitor line =>
      cases own
  | deposit user email =>
      cases own

end AlikeToClient

end Clients

section Visitors

/-- The session of a visitor behind a line of it. -/
def see
    (visitor : Nat)
    (house : House) :
    Event → Option Access.Session
  | .access speaker line =>
      if speaker = visitor then
        some (house.answerAccess speaker line).1.session
      else
        none
  | .submission .. | .deposit .. =>
      none

/-- Two houses in which a visitor comes equally far. -/
structure AlikeToVisitor
    (visitor : Nat)
    (house other : House) : Prop where
  session :
    house.accesses visitor = other.accesses visitor
  users :
    house.room.users = other.room.users

namespace AlikeToVisitor

variable
  {visitor : Nat}
  {house other : House}
  {event : Event}
  (alike : AlikeToVisitor visitor house other)

include alike

/-- What is not a line of the visitor passes by unseen. -/
theorem aside (foreign : event.isOf (.visitor visitor) = false) :
    house.see visitor event = none ∧
      AlikeToVisitor visitor (house.after event) other := by
  have known := (house.intake_users_after event).2.trans alike.users
  cases event with
  | submission client line =>
      exact ⟨rfl, alike.session, known⟩
  | access speaker line =>
      have different : visitor ≠ speaker := by
        simpa [Event.isOf] using foreign
      refine ⟨if_neg different.symm, ?_, known⟩
      exact (update_other different).trans alike.session
  | deposit user email =>
      exact ⟨rfl, alike.session, known⟩

/-- A line of the visitor leaves the session alike, whatever is answered. -/
theorem together (own : event.isOf (.visitor visitor) = true) :
    house.see visitor event = other.see visitor event ∧
      AlikeToVisitor visitor (house.after event) (other.after event) := by
  have known :
      (house.after event).room.users = (other.after event).room.users := by
    rw [(house.intake_users_after event).2,
      (other.intake_users_after event).2, alike.users]
  cases event with
  | submission client line =>
      cases own
  | access speaker line =>
      obtain rfl : visitor = speaker := by
        simpa [Event.isOf] using own
      have sessions :
          (house.answerAccess visitor line).1.session =
            (other.answerAccess visitor line).1.session := by
        simp only [answerAccess, Access.Session.session_process,
          alike.session, alike.users]
      refine ⟨?_, ?_, known⟩
      · simp only [see, ↓reduceIte, sessions]
      · exact (update_same ..).trans
          (sessions.trans (update_same ..).symm)
  | deposit user email =>
      cases own

end AlikeToVisitor

end Visitors

/--
However the lines of all sessions and the deposits from outside interleave,
and wherever submitted mail goes: every client gets the answers, and its
session and draft come through the states, that its own lines alone would have
led to, and so does the session of every visitor, whatever mail and whatever
queue there was at the start.
-/
theorem every_session_as_if_alone
    (house : House)
    (events : List Event)
    (store : Mailbox.Store)
    (queue : List Email) :
    let other : House :=
      { house with room := { house.room with store := store, queue := queue } }
    (∀ client,
        let own := events.filter (·.isOf (.client client))
        house.trace (hear client) events = other.trace (hear client) own ∧
          (house.afterAll events).submissions client =
            (other.afterAll own).submissions client) ∧
      ∀ visitor,
        let own := events.filter (·.isOf (.visitor visitor))
        house.trace (see visitor) events = other.trace (see visitor) own ∧
          (house.afterAll events).accesses visitor =
            (other.afterAll own).accesses visitor := by
  intro other
  constructor
  · intro client own
    have alike : AlikeToClient client house other :=
      ⟨rfl, rfl, rfl⟩
    obtain ⟨heard, last⟩ :=
      trace_filter (AlikeToClient client)
        AlikeToClient.aside AlikeToClient.together alike events
    exact ⟨heard, last.session⟩
  · intro visitor own
    have alike : AlikeToVisitor visitor house other :=
      ⟨rfl, rfl⟩
    obtain ⟨seen, last⟩ :=
      trace_filter (AlikeToVisitor visitor)
        AlikeToVisitor.aside AlikeToVisitor.together alike events
    exact ⟨seen, last.session⟩

end House

end Postroom
