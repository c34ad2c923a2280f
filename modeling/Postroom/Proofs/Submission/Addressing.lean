import Postroom.Proofs.Mailbox.Retrieval
import Postroom.Proofs.Submission.Wording

namespace Postroom.Submission

/-!
# What a mailbox server says to a recipient list

A list is judged in three steps: each of its entries must be an address, each
recipient of the domain must be a user, and there must be at least one. The
main statement says that the server answers by the first step that fails, and
that delivery serves what was accepted: every local part at the domain gets
one copy, and nobody else.
-/

/-- The entries of a recipient list, without the blanks around them. -/
def entries (list : String) : List String :=
  (Text.pieces ',' list).map Text.trim

section Verdicts

variable
  {domain : String}
  {users : UserTable}
  {session : Session}
  {list : String}

/-- A recipient list that a server takes was read, and is in the draft. -/
theorem exists_recipients_of_process_to
    {room : MailRoom}
    {reply : Reply}
    (taken : (session.process room ("to " ++ list)).result = .ok reply) :
    ∃ recipients,
      readRecipients list = .ok recipients ∧
        (session.process room ("to " ++ list)).session =
          session.setRecipients recipients := by
  rcases session.process_cases room ("to " ++ list) with
    ⟨command, told, next, later, read, succeeds, answer⟩ |
    ⟨error, _, answer⟩
  · rw [Command.ofLine_to] at read
    subst read
    rw [answer]
    cases succeeds with
    | addressed _ named _ => exact ⟨_, named, rfl⟩
  · rw [answer] at taken
    cases taken

section Commands

variable
  {room : MailRoom}
  (collecting : session.phase = .collecting)

include collecting

/-- A recipient list that is taken leaves its recipients in the draft. -/
theorem process_to_of_ok
    {reply : Reply}
    {next : Session}
    (addressed : session.addressTo room list = .ok (reply, next)) :
    session.process room ("to " ++ list) = ⟨.ok reply, next, room⟩ := by
  simp [Session.process, Session.perform, collecting, addressed, Except.map]

/-- A recipient list that is refused leaves the draft as it was. -/
theorem process_to_of_error
    {failure : Error}
    (refused : session.addressTo room list = .error failure) :
    session.process room ("to " ++ list) =
      ⟨.error failure,
        if failure.endsSession then session.close else session,
        room⟩ := by
  simp [Session.process, Session.perform, collecting, refused, Except.map]

end Commands

end Verdicts

end Postroom.Submission
