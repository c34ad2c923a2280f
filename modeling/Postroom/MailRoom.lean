import Postroom.Ascending
import Postroom.Mailbox.Store
import Postroom.Submission.Error
import Postroom.UserTable

namespace Postroom

/-!
# Mail rooms

A mail room is what all sessions of one server share: where submitted mail
goes, the users, their mailboxes, and the mail that waits to be relayed. A
mailbox server takes mail for the known users of its own domain and deposits
one copy for each of them. A transfer server takes any mail and queues it.
-/

/-- Where submitted mail goes. -/
inductive Intake where
  /-- Into the mailboxes of one domain. -/
  | mailbox (domain : String)
  /-- To the end of the relay queue. -/
  | queue
  /-- Nowhere, because nobody takes from the relay queue any more. -/
  | closedQueue
  deriving Repr, DecidableEq

/-- What all sessions of one server share. -/
structure MailRoom where
  intake : Intake
  users : UserTable
  store : Mailbox.Store
  /-- The mail that waits to be relayed, oldest first. -/
  queue : List Email

namespace MailRoom

/-- The recipients that belong to a domain. -/
def inDomain
    (domain : String)
    (recipients : List Address) :
    List Address :=
  recipients.filter (·.isIn domain)

/-- The known users of a domain among some recipients, ascending, each once. -/
def localUsers
    (domain : String)
    (users : UserTable)
    (recipients : List Address) :
    List String :=
  ascending
    (((inDomain domain recipients).filter
      (users.contains ·.localPart)).map Address.localPart)

/--
How many of the listed recipients a server takes mail for.

A mailbox server refuses a list that names a stranger of its domain, or nobody
of its domain at all. Recipients of other domains are no concern of it.
-/
def accept
    (room : MailRoom)
    (recipients : List Address) :
    Except Submission.Error Nat :=
  match room.intake with
  | .mailbox domain =>
      let candidates := inDomain domain recipients
      match candidates.find? (!room.users.contains ·.localPart) with
      | some stranger =>
          .error (.unknownRecipient stranger.localPart)
      | none =>
          if candidates.isEmpty then
            .error .noKnownDomain
          else
            .ok candidates.length
  | .queue | .closedQueue =>
      .ok recipients.length

/-- Deposit one copy of an email for each of some users. -/
def depositAll
    (store : Mailbox.Store)
    (users : List String)
    (email : Email) :
    Mailbox.Store :=
  users.foldl (fun current user => (current.deposit user email).2) store

/-- Take a complete email in. -/
def deliver
    (room : MailRoom)
    (email : Email) :
    Except Submission.Error MailRoom :=
  match room.intake with
  | .mailbox domain =>
      .ok
        { room with
          store :=
            depositAll room.store
              (localUsers domain room.users email.recipients) email }
  | .queue =>
      .ok { room with queue := room.queue ++ [email] }
  | .closedQueue =>
      .error .unavailable

end MailRoom

end Postroom
