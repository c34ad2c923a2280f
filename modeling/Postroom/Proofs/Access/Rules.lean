import Postroom.Access.Session
import Postroom.Proofs.Outcome

namespace Postroom.Access

/-!
# What access commands do

The commands of a visiting user that succeed, one rule each. Only the removal
of a message changes the store, and only in the mailbox of the user who is
logged in.
-/

/-- A command succeeds with a reply, and leaves a session and a store. -/
inductive Succeeds
    (session : Session)
    (users : UserTable)
    (store : Mailbox.Store) :
    Command → Reply → Session → Mailbox.Store → Prop where
  | quit :
      Succeeds session users store .quit Reply.bye session.close store
  | login
      {user password : String}
      (visitor : session = .unauthenticated)
      (verified : users.find? user = some password) :
      Succeeds session users store (.login user password) Reply.ok
        (session.login user) store
  | list
      {user : String}
      {messages : Mailbox.Messages}
      (visitor : session = .authenticated user)
      (found : store.list user = .ok messages) :
      Succeeds session users store .list
        (Reply.listing (messages.map listingLine)) session store
  | showMail
      {user number : String}
      {identifier : Mailbox.MessageId}
      {email : Email}
      (visitor : session = .authenticated user)
      (read : messageId store user number = .ok identifier)
      (found : store.get user identifier = .ok email) :
      Succeeds session users store (.showMail number)
        (Reply.listing (emailLines email)) session store
  | delete
      {user number : String}
      {identifier : Mailbox.MessageId}
      {email : Email}
      {later : Mailbox.Store}
      (visitor : session = .authenticated user)
      (read : messageId store user number = .ok identifier)
      (removed : store.delete user identifier = .ok (email, later)) :
      Succeeds session users store (.delete number) Reply.ok session later
  | logout
      {user : String}
      (visitor : session = .authenticated user) :
      Succeeds session users store .logout Reply.ok session.logout store

/-- A number is taken from a user with a mailbox when it can be read. -/
theorem messageId_eq_ok_iff
    {store : Mailbox.Store}
    {user number : String}
    {identifier : Mailbox.MessageId} :
    messageId store user number = .ok identifier ↔
      store.hasMailbox user = true ∧
        readMessageId? number = some identifier := by
  unfold messageId
  cases store.hasMailbox user with
  | false =>
      simp
  | true =>
      cases readMessageId? number <;> simp

/-- A listing shows the messages of a user with a mailbox. -/
theorem list_eq_ok_iff
    {store : Mailbox.Store}
    {user : String}
    {reply : Reply} :
    list store user = .ok reply ↔
      ∃ messages,
        store.list user = .ok messages ∧
          reply = Reply.listing (messages.map listingLine) := by
  simp only [list, bind_eq_ok_iff, mapError_eq_ok_iff, pure, Except.pure,
    Except.ok.injEq]
  exact exists_congr fun messages => and_congr_right fun _ => eq_comm

/-- A message is shown when its number can be read and the user holds it. -/
theorem showMail_eq_ok_iff
    {store : Mailbox.Store}
    {user number : String}
    {reply : Reply} :
    showMail store user number = .ok reply ↔
      ∃ identifier email,
        messageId store user number = .ok identifier ∧
          store.get user identifier = .ok email ∧
          reply = Reply.listing (emailLines email) := by
  simp only [showMail, bind_eq_ok_iff, mapError_eq_ok_iff, pure, Except.pure,
    Except.ok.injEq]
  constructor
  · rintro ⟨identifier, read, email, found, rfl⟩
    exact ⟨identifier, email, read, found, rfl⟩
  · rintro ⟨identifier, email, read, found, rfl⟩
    exact ⟨identifier, read, email, found, rfl⟩

/-- A message is removed when its number can be read and the user holds it. -/
theorem delete_eq_ok_iff
    {store later : Mailbox.Store}
    {user number : String} :
    delete store user number = .ok later ↔
      ∃ identifier email,
        messageId store user number = .ok identifier ∧
          store.delete user identifier = .ok (email, later) := by
  simp only [delete, bind_eq_ok_iff, mapError_eq_ok_iff, pure, Except.pure,
    Except.ok.injEq]
  constructor
  · rintro ⟨identifier, read, ⟨email, store'⟩, removed, rfl⟩
    exact ⟨identifier, email, read, removed⟩
  · rintro ⟨identifier, email, read, removed⟩
    exact ⟨identifier, read, ⟨email, later⟩, removed, rfl⟩

namespace Session

/-- The rules are exactly the commands that succeed. -/
theorem perform_eq_ok_iff
    {session next : Session}
    {users : UserTable}
    {store later : Mailbox.Store}
    {command : Command}
    {reply : Reply} :
    session.perform users store command = .ok (reply, next, later) ↔
      Succeeds session users store command reply next later := by
  constructor
  · intro performed
    unfold perform at performed
    split at performed
    · cases performed
      exact .quit
    · split at performed
      · rename_i verified
        cases performed
        exact .login rfl (UserTable.verify_eq_ok_iff.1 verified)
      · cases performed
    · obtain ⟨answer, listed, shape⟩ := map_eq_ok_iff.1 performed
      cases shape
      obtain ⟨messages, found, rfl⟩ := list_eq_ok_iff.1 listed
      exact .list rfl found
    · obtain ⟨answer, shown, shape⟩ := map_eq_ok_iff.1 performed
      cases shape
      obtain ⟨identifier, email, read, found, rfl⟩ :=
        showMail_eq_ok_iff.1 shown
      exact .showMail rfl read found
    · obtain ⟨left, deleted, shape⟩ := map_eq_ok_iff.1 performed
      cases shape
      obtain ⟨identifier, email, read, removed⟩ :=
        delete_eq_ok_iff.1 deleted
      exact .delete rfl read removed
    · cases performed
      exact .logout rfl
    · cases performed
  · intro succeeds
    cases succeeds with
    | quit =>
        cases session <;> rfl
    | login visitor verified =>
        simp [perform, visitor, UserTable.verify_eq_ok_iff.2 verified]
    | list visitor found =>
        have listed := list_eq_ok_iff.2 ⟨_, found, rfl⟩
        simp [perform, visitor, listed, Except.map]
    | showMail visitor read found =>
        have shown := showMail_eq_ok_iff.2 ⟨_, _, read, found, rfl⟩
        simp [perform, visitor, shown, Except.map]
    | delete visitor read removed =>
        have deleted := delete_eq_ok_iff.2 ⟨_, _, read, removed⟩
        simp [perform, visitor, deleted, Except.map]
    | logout visitor =>
        simp [perform, visitor]

/-- A line whose command succeeds is answered as the rule says. -/
theorem process_of_succeeds
    {session next : Session}
    {users : UserTable}
    {store later : Mailbox.Store}
    {line : String}
    {reply : Reply}
    (succeeds :
      Succeeds session users store (Command.ofLine line) reply next later) :
    session.process users store line = ⟨.ok reply, next, later⟩ := by
  rw [process, perform_eq_ok_iff.2 succeeds]

/-- A line either follows a rule or fails, and then nothing but the session changes. -/
theorem process_cases
    (session : Session)
    (users : UserTable)
    (store : Mailbox.Store)
    (line : String) :
    (∃ command reply next later,
      Command.ofLine line = command ∧
        Succeeds session users store command reply next later ∧
        session.process users store line = ⟨.ok reply, next, later⟩) ∨
      ∃ error,
        session.perform users store (Command.ofLine line) = .error error ∧
          session.process users store line =
            ⟨.error error,
              if error.endsSession then session.close else session,
              store⟩ := by
  unfold process
  cases performed :
      session.perform users store (Command.ofLine line) with
  | ok done =>
      rcases done with ⟨reply, next, later⟩
      exact Or.inl
        ⟨_, reply, next, later, rfl, perform_eq_ok_iff.1 performed, rfl⟩
  | error failure =>
      exact Or.inr ⟨failure, rfl, rfl⟩

end Session

end Postroom.Access
