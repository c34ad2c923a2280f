import Postroom.Proofs.Access.Refusals
import Postroom.Proofs.Procedure
import Postroom.Proofs.Submission.Rules

namespace Postroom

/-!
# Commands carried out in place

A server does not compute what a command leads to and then install it. It
changes the session, the store and the queue while it goes through the steps
of the command, and an error breaks the steps off where they are. Here every
command is written down as such steps. They do what the sessions do, so no
error leaves anything half done.
-/

open Procedure

namespace Submission

/-- Steps on a session and on the mail room that it hands its mail to. -/
abbrev Work :=
  Procedure (Session × MailRoom) Error

namespace Work

/-- Take a recipient list into the draft when the room accepts all of it. -/
def address (list : String) : Work Reply := do
  let recipients ← MonadExcept.ofExcept (readRecipients list)
  let (_, room) ← get
  let count ← MonadExcept.ofExcept (room.accept recipients)
  alter (·.setRecipients recipients)
  return Reply.okWith (toString count)

/-- Deposit one copy after the other, or queue the email while that is possible. -/
def deliver (email : Email) : Work PUnit := do
  let (_, room) ← get
  match room.intake with
  | .mailbox domain =>
      forM (MailRoom.localUsers domain room.users email.recipients)
        fun user => modify fun (session, room) =>
          (session,
            { room with store := (room.store.deposit user email).2 })
  | .queue =>
      modify fun (session, room) =>
        (session, { room with queue := room.queue ++ [email] })
  | .closedQueue =>
      throw .unavailable

/-- Hand the draft over and forget it. -/
def send : Work Reply := do
  let (session, _) ← get
  let email ← MonadExcept.ofExcept session.buildEmail
  deliver email
  alter Session.reset
  return Reply.ok

/-- Carry a command out. -/
def perform (command : Command) : Work Reply := do
  let (session, _) ← get
  match session.phase, command with
  | .awaitBegin, .begin =>
      alter Session.begin
      return Reply.ok
  | .awaitBegin, _ =>
      throw .protocolViolation
  | .collecting, .to list =>
      address list
  | .collecting, .sender text =>
      alter (·.setSender text)
      return Reply.ok
  | .collecting, .subject text =>
      alter (·.setSubject text)
      return Reply.ok
  | .collecting, .data text =>
      alter (·.setData text)
      return Reply.ok
  | .collecting, .send =>
      send
  | .collecting, .quit =>
      alter Session.close
      return Reply.bye
  | .collecting, .begin | .collecting, .unknown _ =>
      throw .unsupportedCommand
  | .closed, _ =>
      throw .protocolViolation

/-- Answer one line of the client. -/
def process (line : String) : Work Reply :=
  (perform (Command.ofLine line)).closing Error.endsSession Session.close

section Running

variable
  (session : Session)
  (room : MailRoom)

/-- A recipient list is read and accepted before the draft changes. -/
theorem runIn_address (list : String) :
    (address list).runIn (session, room) =
      settle (session, room)
        ((session.addressTo room list).map
          fun (reply, next) => (reply, next, room)) := by
  cases read : readRecipients list with
  | error error =>
      have refused : session.addressTo room list = .error error :=
        Session.addressTo_eq_error_iff.2 (Or.inl read)
      simp [address, read, refused, Except.map]
  | ok recipients =>
      cases accepted : room.accept recipients with
      | error error =>
          have refused : session.addressTo room list = .error error :=
            Session.addressTo_eq_error_iff.2
              (Or.inr ⟨recipients, read, accepted⟩)
          simp [address, read, accepted, refused, Except.map]
      | ok count =>
          have taken :
              session.addressTo room list =
                .ok (Reply.okWith (toString count),
                  session.setRecipients recipients) :=
            Session.addressTo_eq_ok_iff.2
              ⟨recipients, count, read, accepted, rfl, rfl⟩
          simp [address, read, accepted, taken, Except.map]

/-- Deposits one after another change nothing but the store. -/
theorem runIn_deposits
    (users : List String)
    (email : Email) :
    (forM users fun user =>
        (modify fun (session, room) =>
          (session,
            { room with store := (room.store.deposit user email).2 }) :
          Work PUnit)).runIn (session, room) =
      (.ok ⟨⟩, session,
        { room with
          store := MailRoom.depositAll room.store users email }) := by
  induction users generalizing room with
  | nil =>
      rfl
  | cons first rest inductionHypothesis =>
      rw [List.forM_cons, runIn_bind, runIn_modify]
      exact inductionHypothesis _

/-- A room refuses an email before it takes any of it in. -/
theorem runIn_deliver (email : Email) :
    (deliver email).runIn (session, room) =
      settle (session, room)
        ((room.deliver email).map fun later => (⟨⟩, session, later)) := by
  rw [deliver, runIn_bind, runIn_get, MailRoom.deliver]
  cases intake : room.intake with
  | mailbox domain =>
      simp only [intake, runIn_deposits, Except.map, settle_ok]
  | queue =>
      simp only [intake, runIn_modify, Except.map, settle_ok]
  | closedQueue =>
      simp only [intake, runIn_throw, Except.map, settle_error]

/-- A draft is forgotten only behind its delivery. -/
theorem runIn_send :
    send.runIn (session, room) =
      settle (session, room)
        ((session.send room).map
          fun (next, later) => (Reply.ok, next, later)) := by
  cases built : session.buildEmail with
  | error error =>
      have refused : session.send room = .error error := by
        rw [Session.send, built]
        rfl
      simp [send, built, refused, Except.map]
  | ok email =>
      cases delivered : room.deliver email with
      | error error =>
          have refused : session.send room = .error error := by
            rw [Session.send, built]
            simp [delivered, bind, Except.bind]
          simp [send, built, runIn_deliver, delivered, refused, Except.map]
      | ok later =>
          have sent : session.send room = .ok (session.reset, later) :=
            Session.send_eq_ok_iff.2
              ⟨email, Session.buildEmail_eq_ok_iff.1 built, delivered, rfl⟩
          simp [send, built, runIn_deliver, delivered, sent, Except.map]

theorem runIn_perform (command : Command) :
    (perform command).runIn (session, room) =
      settle (session, room) (session.perform room command) := by
  rw [perform, runIn_bind, runIn_get]
  cases phase : session.phase with
  | awaitBegin =>
      cases command <;> simp [phase, Session.perform]
  | closed =>
      simp [phase, Session.perform]
  | collecting =>
      cases command with
      | «to» list =>
          simp only [phase, runIn_address, Session.perform]
      | send =>
          simp only [phase, runIn_send, Session.perform]
      | _ =>
          simp [phase, Session.perform]

/-- The steps of a line do to a session and its room what the session does. -/
theorem runIn_process (line : String) :
    let answer := session.process room line
    (process line).runIn (session, room) =
      (answer.result, answer.session, answer.room) := by
  intro answer
  rw [process, runIn_closing _ _ (runIn_perform session room _)]
  simp only [answer, Session.process]
  cases session.perform room (Command.ofLine line) <;> rfl

end Running

end Work

end Submission

namespace Access

/-- Steps on a visitor's session and on the store of all mailboxes. -/
abbrev Work :=
  Procedure (Session × Mailbox.Store) Error

namespace Work

/-- Let a user in whose credentials are right. -/
def login
    (users : UserTable)
    (user password : String) :
    Work Reply := do
  MonadExcept.ofExcept
    ((users.verify user password).mapError Error.ofLogin)
  alter (·.login user)
  return Reply.ok

/-- Remove a message that a number stands for. -/
def delete (user number : String) : Work Reply := do
  let (_, store) ← get
  let identifier ← MonadExcept.ofExcept (messageId store user number)
  let (_, later) ←
    MonadExcept.ofExcept
      ((store.delete user identifier).mapError Error.ofStore)
  modify fun (session, _) => (session, later)
  return Reply.ok

/-- Carry a command out. -/
def perform
    (users : UserTable)
    (command : Command) :
    Work Reply := do
  let (session, store) ← get
  match session, command with
  | _, .quit =>
      alter Session.close
      return Reply.bye
  | .unauthenticated, .login user password =>
      login users user password
  | .authenticated user, .list =>
      MonadExcept.ofExcept (list store user)
  | .authenticated user, .showMail number =>
      MonadExcept.ofExcept (showMail store user number)
  | .authenticated user, .delete number =>
      delete user number
  | .authenticated _, .logout =>
      alter Session.logout
      return Reply.ok
  | _, _ =>
      throw .unsupportedCommand

/-- Answer one line of the user. -/
def process
    (users : UserTable)
    (line : String) :
    Work Reply :=
  (perform users (Command.ofLine line)).closing
    Error.endsSession Session.close

section Running

variable
  (users : UserTable)
  (session : Session)
  (store : Mailbox.Store)

theorem runIn_login (user password : String) :
    (login users user password).runIn (session, store) =
      match users.verify user password with
      | .ok () =>
          (.ok Reply.ok, session.login user, store)
      | .error failure =>
          (.error (.ofLogin failure), session, store) := by
  rw [login, runIn_bind, runIn_ofExcept]
  cases users.verify user password <;> rfl

/-- A message is looked for before it is removed. -/
theorem runIn_delete (user number : String) :
    (delete user number).runIn (session, store) =
      settle (session, store)
        ((Access.delete store user number).map
          fun later => (Reply.ok, session, later)) := by
  simp only [delete, runIn_bind, runIn_get, runIn_ofExcept]
  cases taken : messageId store user number with
  | error error =>
      have refused : Access.delete store user number = .error error := by
        rw [Access.delete, taken]
        rfl
      rw [refused]
      rfl
  | ok identifier =>
      cases removed : store.delete user identifier with
      | error failure =>
          have refused :
              Access.delete store user number =
                .error (Error.ofStore failure) := by
            rw [Access.delete, taken]
            simp [removed, bind, Except.bind, Except.mapError]
          simp only [refused, removed]
          rfl
      | ok removal =>
          obtain ⟨email, later⟩ := removal
          have deleted : Access.delete store user number = .ok later :=
            delete_eq_ok_iff.2 ⟨identifier, email, taken, removed⟩
          simp only [deleted, removed]
          rfl

theorem runIn_perform (command : Command) :
    (perform users command).runIn (session, store) =
      settle (session, store) (session.perform users store command) := by
  rw [perform, runIn_bind, runIn_get]
  cases session with
  | unauthenticated =>
      cases command with
      | login user password =>
          simp only [runIn_login, Session.perform]
          cases users.verify user password <;> rfl
      | _ =>
          simp [Session.perform]
  | authenticated user =>
      cases command with
      | list | showMail number =>
          simp only [runIn_ofExcept, Session.perform, settle_map]
      | delete number =>
          simp only [runIn_delete, Session.perform]
      | _ =>
          simp [Session.perform]
  | closed =>
      cases command <;> simp [Session.perform]

/-- The steps of a line do to a session and the store what the session does. -/
theorem runIn_process (line : String) :
    let answer := session.process users store line
    (process users line).runIn (session, store) =
      (answer.result, answer.session, answer.store) := by
  intro answer
  rw [process, runIn_closing _ _ (runIn_perform users session store _)]
  simp only [answer, Session.process]
  cases session.perform users store (Command.ofLine line) <;> rfl

end Running

end Work

end Access

/-- An error leaves the draft and the room alone, and closes the session if it ends it. -/
theorem Submission.Session.unchanged_of_error
    {session : Submission.Session}
    {room : MailRoom}
    {line : String}
    {error : Submission.Error}
    (failed : (session.process room line).result = .error error) :
    (session.process room line).session.draft = session.draft ∧
      (session.process room line).room = room ∧
      (session.process room line).session.phase =
        if error.endsSession then .closed else session.phase := by
  rcases session.process_cases room line with
    ⟨command, reply, next, later, _, _, answer⟩ | ⟨cause, _, answer⟩
  · rw [answer] at failed
    cases failed
  · rw [answer] at failed ⊢
    cases failed
    cases error.endsSession <;> exact ⟨rfl, rfl, rfl⟩

/-- An error leaves the store alone, and closes the session if it ends it. -/
theorem Access.Session.unchanged_of_error
    {session : Access.Session}
    {users : UserTable}
    {store : Mailbox.Store}
    {line : String}
    {error : Access.Error}
    (failed : (session.process users store line).result = .error error) :
    (session.process users store line).store = store ∧
      (session.process users store line).session =
        if error.endsSession then .closed else session := by
  rcases session.process_cases users store line with
    ⟨command, reply, next, later, _, _, answer⟩ | ⟨cause, _, answer⟩
  · rw [answer] at failed
    cases failed
  · rw [answer] at failed ⊢
    cases failed
    exact ⟨rfl, rfl⟩

/--
No line that fails leaves anything half done.

The steps that a server goes through for a line, in place and with nothing to
roll them back, give what the sessions answer, in whatever state a session is
and wherever the mail goes. When that is an error, the draft, the store and
the queue are what they were, and so is the session unless the error ends it.
-/
theorem failed_lines_change_nothing :
    (∀ (session : Submission.Session) (room : MailRoom) (line : String),
      let answer := session.process room line
      (Submission.Work.process line).runIn (session, room) =
          (answer.result, answer.session, answer.room) ∧
        ∀ error,
          answer.result = .error error →
          answer.session.draft = session.draft ∧
            answer.room = room ∧
            answer.session.phase =
              if error.endsSession then .closed else session.phase) ∧
      (∀ (session : Access.Session) (users : UserTable)
          (store : Mailbox.Store) (line : String),
        let answer := session.process users store line
        (Access.Work.process users line).runIn (session, store) =
            (answer.result, answer.session, answer.store) ∧
          ∀ error,
            answer.result = .error error →
            answer.store = store ∧
              answer.session =
                if error.endsSession then .closed else session) ∧
      (∀ error : Submission.Error,
        error.endsSession = false ↔
          (∃ localPart, error = .unknownRecipient localPart) ∨
            error = .noKnownDomain ∨
            ∃ field, error = .missingField field) ∧
      ∀ error : Access.Error,
        error.endsSession = false ↔
          error = .noMailbox ∨
            error = .invalidNumber ∨
            ∃ identifier, error = .noSuchMail identifier := by
  refine ⟨?_, ?_, ?_, ?_⟩
  · intro session room line answer
    exact
      ⟨Submission.Work.runIn_process session room line,
        fun _ => Submission.Session.unchanged_of_error⟩
  · intro session users store line answer
    exact
      ⟨Access.Work.runIn_process users session store line,
        fun _ => Access.Session.unchanged_of_error⟩
  · intro error
    cases error <;> simp [Submission.Error.endsSession]
  · intro error
    cases error <;> simp [Access.Error.endsSession]

/--
A complete draft is kept though its session ends, and a session goes on behind
a vain attempt on the message of another user.
-/
theorem failed_lines_change_nothing_of_closed_queue :
    let draft : Submission.Draft :=
      ⟨some [⟨"a", "d"⟩], some "s", some "t", some "x"⟩
    let room : MailRoom := ⟨.closedQueue, .empty, .empty, []⟩
    let answer :=
      (⟨.collecting, draft⟩ : Submission.Session).process room "send"
    let mail : Email := ⟨[], "s", "t", "x"⟩
    let store :=
      ((Mailbox.Store.empty.deposit "a" mail).2.deposit "b" mail).2
    let visit :=
      (Access.Session.authenticated "a").process .empty store "delete 1"
    answer.result = .error .unavailable ∧
      answer.session.draft = draft ∧
      answer.session.phase = .closed ∧
      answer.room = room ∧
      visit.result = .error (.noSuchMail 1) ∧
      visit.session = .authenticated "a" ∧
      visit.store = store := by
  intro draft room answer mail store visit
  obtain ⟨submission, access, _, _⟩ := failed_lines_change_nothing
  have refused : answer.result = .error .unavailable := by
    rfl
  have unfound : visit.result = .error (.noSuchMail 1) := by
    rfl
  obtain ⟨kept, sameRoom, closed⟩ :=
    (submission _ room "send").2 _ refused
  obtain ⟨sameStore, stays⟩ :=
    (access _ .empty store "delete 1").2 _ unfound
  exact ⟨refused, kept, closed, sameRoom, unfound, stays, sameStore⟩

end Postroom
