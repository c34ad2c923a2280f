import Postroom.Proofs.Access.Privacy
import Postroom.Proofs.Access.Wording

namespace Postroom.Access

/-!
# Who is told of mail

A visit is a session with the transcript of what was said in it; between the
lines, others may do to the store what they like. Whoever is logged in gave
the password of the table and did not log out since, and only to such a user,
and only of this user's mailbox, an answer tells anything. Whatever goes wrong
closes the session, which is never opened again.
-/

/-- A line of a visitor and what came of it. -/
structure Exchange where
  line : String
  result : Except Error Reply

/-- What comes of a line behind the end of the session. -/
def Exchange.ofClosed (line : String) : Exchange :=
  ⟨line, if line = "quit" then .ok Reply.bye else .error .unsupportedCommand⟩

/-- A user gave the password of the table, and nobody logged out since. -/
def Admitted
    (users : UserTable)
    (transcript : List Exchange)
    (user : String) : Prop :=
  ∃ earlier password later,
    transcript =
        earlier ++
          ⟨"login " ++ user ++ " " ++ password, .ok Reply.ok⟩ :: later ∧
      users.find? user = some password ∧
      ∀ exchange ∈ later, exchange.line ≠ "logout"

/-- A user is admitted by a login with the right password. -/
theorem admitted_of_login
    {users : UserTable}
    {user password : String}
    (known : users.find? user = some password)
    (earlier : List Exchange) :
    Admitted users
      (earlier ++
        [⟨"login " ++ user ++ " " ++ password, .ok Reply.ok⟩])
      user :=
  ⟨earlier, password, [], rfl, known, by simp⟩

/-- A user stays admitted as long as nobody logs out. -/
theorem Admitted.concat
    {users : UserTable}
    {transcript : List Exchange}
    {user : String}
    (admitted : Admitted users transcript user)
    {exchange : Exchange}
    (stays : exchange.line ≠ "logout") :
    Admitted users (transcript ++ [exchange]) user := by
  obtain ⟨earlier, password, later, rfl, known, nobodyLeft⟩ := admitted
  refine ⟨earlier, password, later ++ [exchange], by simp, known, ?_⟩
  intro other member
  rcases List.mem_append.1 member with before | last
  · exact nobodyLeft other before
  · rw [List.mem_singleton.1 last]
    exact stays

/--
Results that tell something of the store: a listing, a message, that one was
removed, or that there was nothing to be found.
-/
inductive Tells : Command → Except Error Reply → Prop where
  | listing (reply : Reply) :
      Tells .list (.ok reply)
  | message (number : String) (reply : Reply) :
      Tells (.showMail number) (.ok reply)
  | removal (number : String) (reply : Reply) :
      Tells (.delete number) (.ok reply)
  | noMailbox (command : Command) :
      Tells command (.error .noMailbox)
  | invalidNumber (command : Command) :
      Tells command (.error .invalidNumber)
  | noSuchMail (command : Command) (identifier : Mailbox.MessageId) :
      Tells command (.error (.noSuchMail identifier))

/-- A failed login ends the session. -/
theorem endsSession_ofLogin (failure : LoginFailure) :
    (Error.ofLogin failure).endsSession = true := by
  cases failure <;> rfl

/-- A session stays open behind an error only while a user is logged in. -/
theorem Fails.authenticated
    {session : Session}
    {users : UserTable}
    {store : Mailbox.Store}
    {command : Command}
    {error : Error}
    (fails : Fails session users store command error)
    (goesOn : error.endsSession = false) :
    command ≠ .logout ∧ ∃ user, session = .authenticated user := by
  cases fails with
  | login visitor refused =>
      rw [endsSession_ofLogin] at goesOn
      cases goesOn
  | list visitor absent =>
      exact ⟨by simp, _, visitor⟩
  | showMail visitor unfound =>
      exact ⟨by simp, _, visitor⟩
  | delete visitor unfound =>
      exact ⟨by simp, _, visitor⟩
  | unsupported unsupported =>
      cases goesOn

namespace Session

variable
  {session : Session}
  {users : UserTable}
  {store : Mailbox.Store}
  {line : String}

/-- Only a user who is logged in is told anything. -/
theorem authenticated_of_tells
    (tells :
      Tells (Command.ofLine line)
        (session.process users store line).result) :
    ∃ user, session = .authenticated user := by
  rcases session.process_cases users store line with
    ⟨command, reply, next, later, rfl, succeeds, answer⟩ |
    ⟨error, failed, answer⟩
  · rw [answer] at tells
    generalize Command.ofLine line = command at succeeds tells
    cases succeeds with
    | list visitor | showMail visitor | delete visitor =>
        exact ⟨_, visitor⟩
    | quit | login | logout =>
        cases tells
  · rw [answer] at tells
    generalize Command.ofLine line = command at tells failed
    have goesOn : error.endsSession = false := by
      cases tells <;> rfl
    exact ((perform_eq_error_iff.1 failed).authenticated goesOn).2

/-- Who is logged in behind a line just logged in, or was so and did not log out. -/
theorem admission_cases
    {user : String}
    (host :
      (session.process users store line).session = .authenticated user) :
    (∃ password,
      line = "login " ++ user ++ " " ++ password ∧
        users.find? user = some password ∧
        (session.process users store line).result = .ok Reply.ok) ∨
      session = .authenticated user ∧ line ≠ "logout" := by
  have logsOut : Command.ofLine "logout" = .logout := by
    decide
  rcases session.process_cases users store line with
    ⟨command, reply, next, later, read, succeeds, answer⟩ |
    ⟨error, failed, answer⟩
  · rw [answer] at host ⊢
    cases succeeds with
    | @login name password visitor verified =>
        cases host
        exact Or.inl
          ⟨password, Command.eq_line_of_ofLine read, verified, rfl⟩
    | list | showMail | delete =>
        refine Or.inr ⟨host, ?_⟩
        rintro rfl
        cases logsOut.symm.trans read
    | quit | logout =>
        cases host
  · rw [answer] at host
    cases goesOn : error.endsSession with
    | true =>
        simp only [goesOn, ↓reduceIte] at host
        cases host
    | false =>
        simp only [goesOn, Bool.false_eq_true, ↓reduceIte] at host
        refine Or.inr ⟨host, ?_⟩
        rintro rfl
        exact ((perform_eq_error_iff.1 failed).authenticated goesOn).1 logsOut

/-- A command that the session does not take up closes it. -/
theorem process_of_unsupported
    (unsupported : session.supports (Command.ofLine line) = false) :
    session.process users store line =
      ⟨.error .unsupportedCommand, .closed, store⟩ :=
  process_of_fails (.unsupported unsupported)

/-- A login with other credentials than those of the table closes the session. -/
theorem process_of_failed_login
    {user password : String}
    (read : Command.ofLine line = .login user password)
    (visitor : session = .unauthenticated)
    (unknown : users.find? user ≠ some password) :
    ∃ failure,
      session.process users store line =
        ⟨.error (.ofLogin failure), .closed, store⟩ := by
  cases verified : users.verify user password with
  | ok =>
      exact absurd (UserTable.verify_eq_ok_iff.1 verified) unknown
  | error failure =>
      refine ⟨failure, ?_⟩
      have fails :
          Fails session users store (Command.ofLine line)
            (.ofLogin failure) :=
        read ▸ .login visitor verified
      rw [process_of_fails fails]
      simp only [endsSession_ofLogin, ↓reduceIte, close]

/-- A closed session bids farewell to whoever quits, and does nothing else. -/
theorem process_closed
    (users : UserTable)
    (store : Mailbox.Store)
    (line : String) :
    closed.process users store line =
      ⟨(Exchange.ofClosed line).result, .closed, store⟩ := by
  by_cases quits : line = "quit"
  · subst quits
    have read : Command.ofLine "quit" = .quit := by
      decide
    exact process_of_succeeds (read ▸ .quit)
  · have unsupported : closed.supports (Command.ofLine line) = false := by
      cases read : Command.ofLine line with
      | quit =>
          exact absurd (Command.eq_line_of_ofLine read) quits
      | login | list | showMail | delete | logout | unknown =>
          rfl
    rw [process_of_unsupported unsupported, Exchange.ofClosed, if_neg quits]

end Session

/-- A session with the transcript of what was said in it. -/
structure Visit where
  transcript : List Exchange
  session : Session

namespace Visit

/-- The visit of a user who has just connected. -/
def start : Visit :=
  ⟨[], .start⟩

/-- The visit behind a line, which finds the store in some state. -/
def after
    (users : UserTable)
    (visit : Visit)
    (turn : Mailbox.Store × String) :
    Visit :=
  let answer := visit.session.process users turn.1 turn.2
  ⟨visit.transcript ++ [⟨turn.2, answer.result⟩], answer.session⟩

/-- The visit behind some lines. -/
def afterAll
    (users : UserTable)
    (visit : Visit)
    (turns : List (Mailbox.Store × String)) :
    Visit :=
  turns.foldl (after users) visit

/-- Whoever is logged in was admitted. -/
def Guarded
    (users : UserTable)
    (visit : Visit) : Prop :=
  ∀ user, visit.session = .authenticated user →
    Admitted users visit.transcript user

/-- Every line keeps a visit guarded, whatever store it finds. -/
theorem Guarded.after
    {users : UserTable}
    {visit : Visit}
    (guarded : visit.Guarded users)
    (turn : Mailbox.Store × String) :
    (visit.after users turn).Guarded users := by
  intro user host
  rcases Session.admission_cases host with
    ⟨password, line, known, result⟩ | ⟨before, stays⟩
  · rw [Visit.after, line, ← line, result, line]
    exact admitted_of_login known visit.transcript
  · exact (guarded user before).concat stays

/-- So do all lines. -/
theorem Guarded.afterAll
    {users : UserTable}
    {visit : Visit}
    (guarded : visit.Guarded users)
    (turns : List (Mailbox.Store × String)) :
    (visit.afterAll users turns).Guarded users := by
  induction turns generalizing visit with
  | nil =>
      exact guarded
  | cons turn rest inductionHypothesis =>
      exact inductionHypothesis (guarded.after turn)

/-- A closed visit stays closed, and nothing is told in it any more. -/
theorem afterAll_closed
    (users : UserTable)
    (transcript : List Exchange)
    (turns : List (Mailbox.Store × String)) :
    afterAll users ⟨transcript, .closed⟩ turns =
      ⟨transcript ++ turns.map fun turn => .ofClosed turn.2, .closed⟩ := by
  induction turns generalizing transcript with
  | nil =>
      simp [afterAll]
  | cons turn rest inductionHypothesis =>
      have first :
          after users ⟨transcript, .closed⟩ turn =
            ⟨transcript ++ [.ofClosed turn.2], .closed⟩ := by
        rw [after, Session.process_closed]
        rfl
      rw [afterAll, List.foldl_cons, first, ← afterAll, inductionHypothesis]
      simp

/--
Whatever a visitor said, and whatever others did to the store meanwhile: who
is logged in was admitted, and only then an answer tells anything, and only of
this user's mailbox, which alone a line can change. A failed login, a second
login and every command that the session does not take up close it, and a
closed session stays closed, reads nothing and changes nothing.
-/
theorem tells_admitted_users_only
    (users : UserTable)
    (turns : List (Mailbox.Store × String))
    (store : Mailbox.Store)
    (line : String) :
    let visit := start.afterAll users turns
    let session := visit.session
    let command := Command.ofLine line
    let answer := session.process users store line
    (∀ user, session = .authenticated user →
        Admitted users visit.transcript user) ∧
      (Tells command answer.result →
        ∃ user, session = .authenticated user) ∧
      (∀ other : Mailbox.Store, session.Alike store other →
        (session.process users other line).result = answer.result ∧
          (session.process users other line).session = answer.session) ∧
      (∀ user, session ≠ .authenticated user →
        answer.store.mailbox? user = store.mailbox? user) ∧
      ((∀ user, session ≠ .authenticated user) → answer.store = store) ∧
      (∀ user password, command = .login user password →
        (session = .unauthenticated → users.find? user ≠ some password →
          ∃ failure,
            answer = ⟨.error (.ofLogin failure), .closed, store⟩) ∧
          ∀ host, session = .authenticated host →
            answer = ⟨.error .unsupportedCommand, .closed, store⟩) ∧
      (session.supports command = false →
        answer = ⟨.error .unsupportedCommand, .closed, store⟩) ∧
      (session = .closed →
        answer = ⟨(Exchange.ofClosed line).result, .closed, store⟩ ∧
          ∀ later : List (Mailbox.Store × String),
            visit.afterAll users later =
              ⟨visit.transcript ++ later.map fun turn => .ofClosed turn.2,
                .closed⟩) := by
  intro visit session command answer
  have guarded : visit.Guarded users := by
    refine Guarded.afterAll ?_ turns
    intro user host
    cases host
  refine
    ⟨guarded, Session.authenticated_of_tells, ?_,
      fun user => Session.mailbox?_process users line,
      Session.store_process users line, ?_,
      Session.process_of_unsupported, ?_⟩
  · intro other alike
    obtain ⟨result, next, _⟩ := Session.process_alike users line alike
    exact ⟨result, next⟩
  · intro user password read
    refine ⟨Session.process_of_failed_login read, fun host visitor => ?_⟩
    apply Session.process_of_unsupported
    rw [show Command.ofLine line = .login user password from read, visitor]
    rfl
  · intro closed
    have shape : visit = ⟨visit.transcript, .closed⟩ := by
      rw [← closed]
    constructor
    · change visit.session.process users store line = _
      rw [show visit.session = .closed from closed, Session.process_closed]
    · intro later
      rw [shape]
      exact afterAll_closed users visit.transcript later

end Visit

end Postroom.Access
