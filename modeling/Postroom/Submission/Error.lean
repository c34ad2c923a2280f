import Postroom.Reply

namespace Postroom.Submission

/-!
# Errors of the submission protocol

Both ends of a submission share these errors: the server refuses commands with
them, and the client fails with them when a server does not play along.
-/

/-- The parts of a draft. -/
inductive DraftField where
  | recipients
  | sender
  | subject
  | data
  deriving Repr, DecidableEq

/-- The name of a part of a draft. -/
def DraftField.name : DraftField → String
  | .recipients =>
      "recipients"
  | .sender =>
      "sender"
  | .subject =>
      "subject"
  | .data =>
      "data"

/-- Why a submission does not go on. -/
inductive Error where
  | io (reason : String)
  | protocolViolation
  | unsupportedCommand
  | invalidAddress (text : String)
  | unknownRecipient (localPart : String)
  | noKnownDomain
  | missingField (field : DraftField)
  | lineTooLong
  | unavailable
  | unexpectedReply (command reply : String)
  | connectionClosed
  deriving Repr, DecidableEq

namespace Error

/-- The wording of an error. -/
def message : Error → String
  | .io reason =>
      "I/O error: " ++ reason
  | .protocolViolation =>
      "protocol error"
  | .unsupportedCommand =>
      "command not supported"
  | .invalidAddress text =>
      "invalid email pattern " ++ text
  | .unknownRecipient localPart =>
      "unknown recipient " ++ localPart
  | .noKnownDomain =>
      "no known domain"
  | .missingField field =>
      "email is missing " ++ field.name
  | .lineTooLong =>
      "line too long"
  | .unavailable =>
      "service unavailable"
  | .unexpectedReply command reply =>
      "unexpected reply to '" ++ command ++ "': " ++ reply
  | .connectionClosed =>
      "connection closed by peer"

/-- Whether a session cannot go on after an error. -/
def endsSession : Error → Bool
  | .unknownRecipient _ | .noKnownDomain | .missingField _ =>
      false
  | _ =>
      true

/-- The reply that tells the client of an error. -/
def reply (error : Error) : Reply :=
  Reply.error error.message

end Error

end Postroom.Submission
