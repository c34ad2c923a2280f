import Postroom.Proofs.Access.Rules

namespace Postroom.Access

/-!
# Why access commands are refused

The commands of a visiting user that fail, one rule for each reason. A session
takes few commands up at a time, and refuses every other one without a look at
the users or at the store. Of the commands that it takes up, a login fails by
the table of users, and only commands that look into a mailbox fail by what
the store holds.
-/

/-- Whether a session takes a command up at all. -/
def Session.supports : Session → Command → Bool
  | _, .quit =>
      true
  | .unauthenticated, .login _ _ =>
      true
  | .authenticated _, .list | .authenticated _, .showMail _ |
    .authenticated _, .delete _ | .authenticated _, .logout =>
      true
  | _, _ =>
      false

/-- Why a user is not given the message that a number stands for. -/
inductive Unfound
    (store : Mailbox.Store)
    (user number : String) :
    Error → Prop where
  | homeless
      (absent : store.mailbox? user = none) :
      Unfound store user number .noMailbox
  | unreadable
      (owns : store.hasMailbox user = true)
      (unread : readMessageId? number = none) :
      Unfound store user number .invalidNumber
  | missing
      {identifier : Mailbox.MessageId}
      (read : messageId store user number = .ok identifier)
      (absent :
        store.get user identifier = .error (.noSuchMail identifier)) :
      Unfound store user number (.noSuchMail identifier)

/-- A command is refused with an error. -/
inductive Fails
    (session : Session)
    (users : UserTable)
    (store : Mailbox.Store) :
    Command → Error → Prop where
  | login
      {user password : String}
      {failure : LoginFailure}
      (visitor : session = .unauthenticated)
      (refused : users.verify user password = .error failure) :
      Fails session users store (.login user password)
        (Error.ofLogin failure)
  | list
      {user : String}
      (visitor : session = .authenticated user)
      (absent : store.mailbox? user = none) :
      Fails session users store .list .noMailbox
  | showMail
      {user number : String}
      {error : Error}
      (visitor : session = .authenticated user)
      (unfound : Unfound store user number error) :
      Fails session users store (.showMail number) error
  | delete
      {user number : String}
      {error : Error}
      (visitor : session = .authenticated user)
      (unfound : Unfound store user number error) :
      Fails session users store (.delete number) error
  | unsupported
      {command : Command}
      (unsupported : session.supports command = false) :
      Fails session users store command .unsupportedCommand

/-- The store refuses a number in a mailbox, or the mailbox itself. -/
theorem get_eq_error_iff
    {store : Mailbox.Store}
    {user : String}
    {identifier : Mailbox.MessageId}
    {failure : Mailbox.StoreError} :
    store.get user identifier = .error failure ↔
      store.mailbox? user = none ∧ failure = .noMailbox ∨
        ∃ messages,
          store.mailbox? user = some messages ∧
            messages.find? identifier = none ∧
            failure = .noSuchMail identifier := by
  unfold Mailbox.Store.get
  cases store.mailbox? user with
  | none =>
      simp [eq_comm]
  | some messages =>
      cases found : messages.find? identifier <;> simp [found, eq_comm]

/-- A number is refused to users without a mailbox, and when it cannot be read. -/
theorem messageId_eq_error_iff
    {store : Mailbox.Store}
    {user number : String}
    {error : Error} :
    messageId store user number = .error error ↔
      store.mailbox? user = none ∧ error = .noMailbox ∨
        store.hasMailbox user = true ∧ readMessageId? number = none ∧
          error = .invalidNumber := by
  unfold messageId Mailbox.Store.hasMailbox
  cases store.mailbox? user with
  | none =>
      simp [eq_comm]
  | some messages =>
      cases readMessageId? number <;> simp [eq_comm]

/-- Behind a number that was taken, the message itself may be missing. -/
theorem lookup_eq_error_iff
    {store : Mailbox.Store}
    {user number : String}
    {error : Error} :
    (messageId store user number = .error error ∨
        ∃ identifier,
          messageId store user number = .ok identifier ∧
            ∃ failure,
              store.get user identifier = .error failure ∧
                Error.ofStore failure = error) ↔
      Unfound store user number error := by
  constructor
  · rintro (untaken | ⟨identifier, taken, failure, absent, rfl⟩)
    · rcases messageId_eq_error_iff.1 untaken with
        ⟨homeless, rfl⟩ | ⟨owns, unread, rfl⟩
      · exact .homeless homeless
      · exact .unreadable owns unread
    · rcases get_eq_error_iff.1 absent with
        ⟨homeless, rfl⟩ | ⟨messages, _, _, rfl⟩
      · exact .homeless homeless
      · exact .missing taken absent
  · intro unfound
    cases unfound with
    | homeless homeless =>
        exact Or.inl (messageId_eq_error_iff.2 (Or.inl ⟨homeless, rfl⟩))
    | unreadable owns unread =>
        exact Or.inl
          (messageId_eq_error_iff.2 (Or.inr ⟨owns, unread, rfl⟩))
    | missing taken absent =>
        exact Or.inr ⟨_, taken, _, absent, rfl⟩

/-- Nobody without a mailbox has messages to list. -/
theorem list_eq_error_iff
    {store : Mailbox.Store}
    {user : String}
    {error : Error} :
    list store user = .error error ↔
      store.mailbox? user = none ∧ error = .noMailbox := by
  simp only [list, bind_eq_error_iff, mapError_eq_error_iff, pure,
    Except.pure, reduceCtorEq, and_false, exists_false, or_false]
  unfold Mailbox.Store.list
  cases store.mailbox? user <;> simp [Error.ofStore, eq_comm]

/-- A message is not shown when it is not found. -/
theorem showMail_eq_error_iff
    {store : Mailbox.Store}
    {user number : String}
    {error : Error} :
    showMail store user number = .error error ↔
      Unfound store user number error := by
  rw [← lookup_eq_error_iff]
  simp only [showMail, bind_eq_error_iff, mapError_eq_error_iff, pure,
    Except.pure, reduceCtorEq, and_false, exists_false, or_false]

/-- A message is not removed when it is not found. -/
theorem delete_eq_error_iff
    {store : Mailbox.Store}
    {user number : String}
    {error : Error} :
    delete store user number = .error error ↔
      Unfound store user number error := by
  rw [← lookup_eq_error_iff]
  simp only [delete, bind_eq_error_iff, mapError_eq_error_iff,
    Mailbox.Store.delete, map_eq_error_iff, pure, Except.pure, reduceCtorEq,
    and_false, exists_false, or_false]

/-- A search in a mailbox leaves the session open. -/
theorem Unfound.endsSession
    {store : Mailbox.Store}
    {user number : String}
    {error : Error}
    (unfound : Unfound store user number error) :
    error.endsSession = false := by
  cases unfound <;> rfl

/-- The rules are exactly the commands that fail. -/
theorem Session.perform_eq_error_iff
    {session : Session}
    {users : UserTable}
    {store : Mailbox.Store}
    {command : Command}
    {error : Error} :
    session.perform users store command = .error error ↔
      Fails session users store command error := by
  constructor
  · intro failed
    unfold Session.perform at failed
    split at failed
    · cases failed
    · split at failed
      · cases failed
      · rename_i refused
        cases failed
        exact .login rfl refused
    · obtain ⟨homeless, rfl⟩ :=
        list_eq_error_iff.1 (map_eq_error_iff.1 failed)
      exact .list rfl homeless
    · exact .showMail rfl
        (showMail_eq_error_iff.1 (map_eq_error_iff.1 failed))
    · exact .delete rfl
        (delete_eq_error_iff.1 (map_eq_error_iff.1 failed))
    · cases failed
    · cases failed
      refine .unsupported ?_
      unfold Session.supports
      split <;> simp_all
  · intro fails
    cases fails with
    | login visitor refused =>
        simp [Session.perform, visitor, refused]
    | list visitor absent =>
        have unlisted := list_eq_error_iff.2 ⟨absent, rfl⟩
        simp [Session.perform, visitor, unlisted, Except.map]
    | showMail visitor unfound =>
        have unshown := showMail_eq_error_iff.2 unfound
        simp [Session.perform, visitor, unshown, Except.map]
    | delete visitor unfound =>
        have undeleted := delete_eq_error_iff.2 unfound
        simp [Session.perform, visitor, undeleted, Except.map]
    | unsupported unsupported =>
        cases session <;> cases command <;> first | rfl | cases unsupported

/-- A line whose command is refused changes nothing but the session. -/
theorem Session.process_of_fails
    {session : Session}
    {users : UserTable}
    {store : Mailbox.Store}
    {line : String}
    {error : Error}
    (fails : Fails session users store (Command.ofLine line) error) :
    session.process users store line =
      ⟨.error error,
        if error.endsSession then session.close else session,
        store⟩ := by
  rw [Session.process, Session.perform_eq_error_iff.2 fails]

end Postroom.Access
