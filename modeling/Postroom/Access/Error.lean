import Postroom.Mailbox.Store
import Postroom.Reply
import Postroom.UserTable

namespace Postroom.Access

/-!
# Errors of the access protocol

Lookups that find nothing leave a session open. Every other error ends it.
-/

/-- Why a user's command is refused. -/
inductive Error where
  | io (reason : String)
  | unknownUser
  | wrongPassword
  | unsupportedCommand
  | lineTooLong
  | noMailbox
  | invalidNumber
  | noSuchMail (identifier : Mailbox.MessageId)
  deriving Repr, DecidableEq

namespace Error

/-- What the store could not find, as the user is told. -/
def ofStore : Mailbox.StoreError → Error
  | .noMailbox =>
      .noMailbox
  | .noSuchMail identifier =>
      .noSuchMail identifier

/-- Why credentials were refused, as the user is told. -/
def ofLogin : LoginFailure → Error
  | .unknownUser =>
      .unknownUser
  | .wrongPassword =>
      .wrongPassword

/-- The wording of an error. -/
def message : Error → String
  | .io reason =>
      "I/O error: " ++ reason
  | .unknownUser =>
      "unknown user"
  | .wrongPassword =>
      "wrong password"
  | .unsupportedCommand =>
      "command not supported"
  | .lineTooLong =>
      "line too long"
  | .noMailbox =>
      Mailbox.StoreError.noMailbox.message
  | .invalidNumber =>
      "invalid number"
  | .noSuchMail identifier =>
      (Mailbox.StoreError.noSuchMail identifier).message

/-- Whether a session cannot go on after an error. -/
def endsSession : Error → Bool
  | .noMailbox | .invalidNumber | .noSuchMail _ =>
      false
  | _ =>
      true

/-- The reply that tells the user of an error. -/
def reply (error : Error) : Reply :=
  Reply.error error.message

end Error

end Postroom.Access
