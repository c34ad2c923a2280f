import Postroom.MailRoom
import Postroom.Submission.Command
import Postroom.Submission.Draft
import Postroom.Text.Blank

namespace Postroom.Submission

/-!
# Submission sessions

A session waits for `begin`, then collects drafts and hands them to the mail
room one by one, until it is closed. A command that fails changes nothing,
except that most errors close the session.
-/

/-- How far a session has come. -/
inductive Phase where
  | awaitBegin
  | collecting
  | closed
  deriving Repr, DecidableEq

/-- The server's side of one submission. -/
structure Session where
  phase : Phase
  draft : Draft
  deriving Repr, DecidableEq

/-- What a command does to a session and to the mail room, and its reply. -/
structure Answer where
  result : Except Error Reply
  session : Session
  room : MailRoom

namespace Answer

/-- The reply that is sent for a command. -/
def reply (answer : Answer) : Reply :=
  match answer.result with
  | .ok reply =>
      reply
  | .error error =>
      error.reply

/-- Whether the connection ends behind the reply. -/
def ends (answer : Answer) : Bool :=
  match answer.result with
  | .ok reply =>
      reply.isBye
  | .error error =>
      error.endsSession

end Answer

/-- The address of one piece of a recipient list. -/
def readRecipient (piece : String) : Except Error Address :=
  match Address.ofText? (Text.trim piece) with
  | none =>
      .error (.invalidAddress (Text.trim piece))
  | some address =>
      .ok address

/-- The addresses of a recipient list, or its first piece that is none. -/
def readRecipients (list : String) : Except Error (List Address) :=
  (Text.pieces ',' list).mapM readRecipient

namespace Session

/-- The session of a client that has just connected. -/
def start : Session :=
  ⟨.awaitBegin, .fresh⟩

instance : Inhabited Session :=
  ⟨start⟩

/-- Open a session for drafts. -/
def begin (session : Session) : Session :=
  { session with phase := .collecting }

/-- Forget the draft. -/
def reset (session : Session) : Session :=
  { session with draft := .fresh }

/-- Close a session for good. -/
def close (session : Session) : Session :=
  { session with phase := .closed }

def setRecipients (session : Session) (recipients : List Address) : Session :=
  { session with draft.recipients := some recipients }

def setSender (session : Session) (sender : String) : Session :=
  { session with draft.sender := some sender }

def setSubject (session : Session) (subject : String) : Session :=
  { session with draft.subject := some subject }

def clearSubject (session : Session) : Session :=
  { session with draft.subject := none }

def setData (session : Session) (data : String) : Session :=
  { session with draft.data := some data }

/-- The email of the session's draft. -/
def buildEmail (session : Session) : Except Error Email :=
  match session.draft.email with
  | .ok email =>
      .ok email
  | .error field =>
      .error (.missingField field)

/-- Take a recipient list into the draft. -/
def addressTo
    (session : Session)
    (room : MailRoom)
    (list : String) :
    Except Error (Reply × Session) := do
  let recipients ← readRecipients list
  let count ← room.accept recipients
  return (Reply.okWith (toString count), session.setRecipients recipients)

/-- Hand the draft to the mail room and start another. -/
def send
    (session : Session)
    (room : MailRoom) :
    Except Error (Session × MailRoom) := do
  let email ← session.buildEmail
  let later ← room.deliver email
  return (session.reset, later)

/-- Carry a command out, or say why it is refused. -/
def perform
    (session : Session)
    (room : MailRoom)
    (command : Command) :
    Except Error (Reply × Session × MailRoom) :=
  match session.phase, command with
  | .awaitBegin, .begin =>
      .ok (Reply.ok, session.begin, room)
  | .awaitBegin, _ =>
      .error .protocolViolation
  | .collecting, .to list =>
      (session.addressTo room list).map
        fun (reply, next) => (reply, next, room)
  | .collecting, .sender text =>
      .ok (Reply.ok, session.setSender text, room)
  | .collecting, .subject text =>
      .ok (Reply.ok, session.setSubject text, room)
  | .collecting, .data text =>
      .ok (Reply.ok, session.setData text, room)
  | .collecting, .send =>
      (session.send room).map
        fun (next, later) => (Reply.ok, next, later)
  | .collecting, .quit =>
      .ok (Reply.bye, session.close, room)
  | .collecting, .begin | .collecting, .unknown _ =>
      .error .unsupportedCommand
  | .closed, _ =>
      .error .protocolViolation

/-- Answer one line of the client. -/
def process
    (session : Session)
    (room : MailRoom)
    (line : String) :
    Answer :=
  match session.perform room (Command.ofLine line) with
  | .ok (reply, next, later) =>
      ⟨.ok reply, next, later⟩
  | .error error =>
      ⟨.error error,
        if error.endsSession then session.close else session,
        room⟩

end Session

end Postroom.Submission
