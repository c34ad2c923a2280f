import Postroom.Access.Command
import Postroom.Access.Error

namespace Postroom.Access

/-!
# Access sessions

A user logs in, looks at the messages of one mailbox, and logs out or quits. A
command that fails changes nothing, except that most errors close the session.
-/

/-- The server's side of one user's visit. -/
inductive Session where
  | unauthenticated
  | authenticated (user : String)
  | closed
  deriving Repr, DecidableEq

/-- What a command does to a session and to the store, and its reply. -/
structure Answer where
  result : Except Error Reply
  session : Session
  store : Mailbox.Store

namespace Answer

/-- The reply that is sent for a command. -/
def reply (answer : Answer) : Reply :=
  match answer.result with
  | .ok reply =>
      reply
  | .error error =>
      error.reply

/-- Whether the connection ends behind the reply. -/
def ends (answer : Answer) : Bool :=
  match answer.result with
  | .ok reply =>
      reply.isBye
  | .error error =>
      error.endsSession

end Answer

/-- The line of a listing that stands for one message. -/
def listingLine (message : Mailbox.MessageId × Email) : String :=
  Text.writeDecimal message.1.toNat ++ " " ++
    message.2.sender ++ " " ++ message.2.subject

/-- The lines that show one email. -/
def emailLines (email : Email) : List String :=
  [
    "from " ++ email.sender,
    "to " ++ email.recipientList,
    "subject " ++ email.subject,
    "data " ++ email.data
  ]

/-- The message number that a text denotes. -/
def readMessageId? (text : String) : Option Mailbox.MessageId :=
  (Text.readBelow? UInt64.size text).map UInt64.ofNat

/-- The message number that a user with a mailbox asks for. -/
def messageId
    (store : Mailbox.Store)
    (user number : String) :
    Except Error Mailbox.MessageId :=
  if store.hasMailbox user then
    match readMessageId? number with
    | none =>
        .error .invalidNumber
    | some identifier =>
        .ok identifier
  else
    .error .noMailbox

/-- The listing of a user's mailbox. -/
def list
    (store : Mailbox.Store)
    (user : String) :
    Except Error Reply := do
  let messages ← (store.list user).mapError Error.ofStore
  return Reply.listing (messages.map listingLine)

/-- One message of a user. -/
def showMail
    (store : Mailbox.Store)
    (user number : String) :
    Except Error Reply := do
  let identifier ← messageId store user number
  let email ← (store.get user identifier).mapError Error.ofStore
  return Reply.listing (emailLines email)

/-- Remove one message of a user. -/
def delete
    (store : Mailbox.Store)
    (user number : String) :
    Except Error Mailbox.Store := do
  let identifier ← messageId store user number
  let (_, later) ←
    (store.delete user identifier).mapError Error.ofStore
  return later

namespace Session

/-- The session of a user who has just connected. -/
def start : Session :=
  .unauthenticated

instance : Inhabited Session :=
  ⟨start⟩

/-- The user who is logged in. -/
def user? : Session → Option String
  | .authenticated user =>
      some user
  | .unauthenticated | .closed =>
      none

/-- Let a user in, whatever the session was before. -/
def login (_ : Session) (user : String) : Session :=
  .authenticated user

/-- Forget the user, whatever the session was before. -/
def logout (_ : Session) : Session :=
  .unauthenticated

/-- Close a session for good. -/
def close (_ : Session) : Session :=
  .closed

/-- Carry a command out, or say why it is refused. -/
def perform
    (session : Session)
    (users : UserTable)
    (store : Mailbox.Store)
    (command : Command) :
    Except Error (Reply × Session × Mailbox.Store) :=
  match session, command with
  | _, .quit =>
      .ok (Reply.bye, session.close, store)
  | .unauthenticated, .login user password =>
      match UserTable.verify users user password with
      | .ok () =>
          .ok (Reply.ok, session.login user, store)
      | .error failure =>
          .error (Error.ofLogin failure)
  | .authenticated user, .list =>
      (list store user).map fun reply => (reply, session, store)
  | .authenticated user, .showMail number =>
      (showMail store user number).map fun reply => (reply, session, store)
  | .authenticated user, .delete number =>
      (delete store user number).map fun later => (Reply.ok, session, later)
  | .authenticated _, .logout =>
      .ok (Reply.ok, session.logout, store)
  | _, _ =>
      .error .unsupportedCommand

/-- Answer one line of the user. -/
def process
    (session : Session)
    (users : UserTable)
    (store : Mailbox.Store)
    (line : String) :
    Answer :=
  match session.perform users store (Command.ofLine line) with
  | .ok (reply, next, later) =>
      ⟨.ok reply, next, later⟩
  | .error error =>
      ⟨.error error,
        if error.endsSession then session.close else session,
        store⟩

end Session

end Postroom.Access
