import Postroom.Proofs.Access.Rules
import Postroom.Proofs.Access.Wording
import Postroom.Proofs.Submission.Addressing

namespace Postroom

/-!
# Who gets mail can log in

A mailbox server takes names and passwords as its table of users has them. Who
is addressed has a name that an address can carry, so the name is one word of
a login. The password need not be one word, and a login with more words than
two is no command. So a user whom mail reaches can read it exactly when the
password holds no space.
-/

namespace Access.Session

variable
  {users : UserTable}
  {user password : String}

/-- Whoever knows a password of the table is let in when the login is understood. -/
theorem process_login
    (named : user ≠ "")
    (entered : users.find? user = some password)
    (store : Mailbox.Store) :
    start.process users store ("login " ++ user ++ " " ++ password) =
      if ' ' ∈ user.toList ∨ ' ' ∈ password.toList then
        ⟨.error .unsupportedCommand, .closed, store⟩
      else
        ⟨.ok Reply.ok, .authenticated user, store⟩ := by
  have read := @Command.ofLine_login user password named
  split at read
  · rename_i spaced
    rw [if_pos spaced, process, read]
    rfl
  · rename_i words
    rw [if_neg words]
    apply process_of_succeeds
    rw [read]
    exact .login rfl entered

end Access.Session

namespace House

/--
When a mailbox server accepts mail for an address that is written with the name
of a user, the user logs in with the password of the table, provided that the
name and the password hold no spaces; otherwise the line is no command, and the
session is closed. The name of a user who gets a copy never holds a space.
-/
theorem addressed_users_log_in
    (domain : String)
    (users : UserTable)
    (user password : String)
    (store : Mailbox.Store)
    (queue : List Email)
    (session : Submission.Session)
    (reply : Reply)
    (entered : users.find? user = some password)
    (accepted :
      (session.process ⟨.mailbox domain, users, store, queue⟩
        ("to " ++ (user ++ "@" ++ domain))).result = .ok reply) :
    (∀ current : Mailbox.Store,
      Access.Session.start.process users current
          ("login " ++ user ++ " " ++ password) =
        if ' ' ∈ user.toList ∨ ' ' ∈ password.toList then
          ⟨.error .unsupportedCommand, .closed, current⟩
        else
          ⟨.ok Reply.ok, .authenticated user, current⟩) ∧
      ∃ recipients,
        (session.process ⟨.mailbox domain, users, store, queue⟩
            ("to " ++ (user ++ "@" ++ domain))).session =
          session.setRecipients recipients ∧
        (user ∈ MailRoom.localUsers domain users recipients →
          ' ' ∉ user.toList) := by
  obtain ⟨recipients, named, changed⟩ :=
    Submission.exists_recipients_of_process_to accepted
  have nonempty := Submission.ne_empty_of_readRecipients named
  refine
    ⟨Access.Session.process_login nonempty entered, recipients, changed, ?_⟩
  intro copied
  obtain ⟨recipient, member, _, _, rfl⟩ := MailRoom.mem_localUsers.1 copied
  have valid := (Submission.readRecipients_eq_ok_iff.1 named).2
  exact (valid recipient member).space_not_mem_localPart

/-- A user who gets mail, and whose password is one word, is let in. -/
theorem addressed_users_log_in_with_one_word :
    let users : UserTable := Directory.empty.set "ann" "p+q"
    let session : Submission.Session := ⟨.collecting, .fresh⟩
    (session.process ⟨.mailbox "home.org", users, .empty, []⟩
          "to ann@home.org").result =
        .ok (Reply.okWith "1") ∧
      Access.Session.start.process users .empty "login ann p+q" =
        ⟨.ok Reply.ok, .authenticated "ann", .empty⟩ := by
  intro users session
  have accepted :
      (session.process ⟨.mailbox "home.org", users, .empty, []⟩
          "to ann@home.org").result =
        .ok (Reply.okWith "1") := by
    decide
  have admitted :=
    (addressed_users_log_in "home.org" users "ann" "p+q" .empty [] session
      (Reply.okWith "1") rfl accepted).1 .empty
  rw [if_neg (by decide)] at admitted
  exact ⟨accepted, admitted⟩

/-- Users whom mail is accepted for are kept out by a space in password or name. -/
theorem kept_out_by_spaces :
    let users : UserTable := (Directory.empty.set "ann" "p q").set " ann" "pw"
    let session : Submission.Session := ⟨.collecting, .fresh⟩
    ∀ entry ∈ [("ann", "p q"), (" ann", "pw")],
      let answer :=
        Access.Session.start.process users .empty
          ("login " ++ entry.1 ++ " " ++ entry.2)
      users.find? entry.1 = some entry.2 ∧
        (session.process ⟨.mailbox "home.org", users, .empty, []⟩
            ("to " ++ (entry.1 ++ "@" ++ "home.org"))).result =
          .ok (Reply.okWith "1") ∧
        answer.result = .error .unsupportedCommand ∧
        answer.session = .closed := by
  decide

end House

end Postroom
