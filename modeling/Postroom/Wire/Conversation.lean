import Postroom.Access.Session
import Postroom.Submission.Session
import Postroom.Wire.Line

namespace Postroom.Wire

/-!
# Conversations

A server greets its client, answers each line by one reply, and hangs up
behind the reply that ends the session. An overlong line is answered by an
error and ends the conversation without reaching the session. Both protocols
are served by the same loop.
-/

/-- What a service makes of one line. -/
structure Turn (Session : Type) where
  reply : Reply
  /-- Whether the server hangs up behind the reply. -/
  ends : Bool
  session : Session
  room : MailRoom

/-- A protocol as the loop of a connection sees it. -/
structure Service (Session : Type) where
  greeting : Reply
  start : Session
  answer : Session → MailRoom → String → Turn Session

/-- Mail is submitted under this name. -/
def submissionProtocol : String :=
  "DMTP"

/-- Mailboxes are accessed under this name. -/
def accessProtocol : String :=
  "DMAP"

/-- The service that takes mail in. -/
def submission : Service Submission.Session where
  greeting :=
    Reply.greeting submissionProtocol
  start :=
    .start
  answer session room line :=
    let answer := session.process room line
    ⟨answer.reply, answer.ends, answer.session, answer.room⟩

/-- The service that shows users their mail. -/
def access : Service Access.Session where
  greeting :=
    Reply.greeting accessProtocol
  start :=
    .start
  answer session room line :=
    let answer := session.process room.users room.store line
    ⟨answer.reply, answer.ends, answer.session,
      { room with store := answer.store }⟩

/-- The reply to an overlong line. -/
def overlongReply : Reply :=
  Reply.error "line too long"

/-- How far a server has come with one client. -/
structure Progress (Session : Type) where
  session : Session
  room : MailRoom
  /-- Whether the server still listens. -/
  isOpen : Bool

/-- Answer what came in, unless the server has hung up. -/
def answer
    (service : Service Session)
    (progress : Progress Session)
    (message : Incoming) :
    List Reply × Progress Session :=
  if progress.isOpen then
    match message with
    | .overlong =>
        ([overlongReply], { progress with isOpen := false })
    | .line text =>
        let turn :=
          service.answer progress.session progress.room text
        ([turn.reply], ⟨turn.session, turn.room, !turn.ends⟩)
  else
    ([], progress)

/-- Answer messages one after another. -/
def answerAll
    (service : Service Session) :
    Progress Session →
    List Incoming →
    List Reply × Progress Session
  | progress, [] =>
      ([], progress)
  | progress, message :: rest =>
      let (replies, next) := answer service progress message
      let (others, last) := answerAll service next rest
      (replies ++ others, last)

/-- The server's side of a connection whose client sends the given bytes. -/
def serve
    (service : Service Session)
    (room : MailRoom)
    (stream : List UInt8) :
    List Reply × MailRoom :=
  let (replies, last) :=
    answerAll service ⟨service.start, room, true⟩ (incoming stream)
  (service.greeting :: replies, last.room)

/-- Replies as they are sent. -/
def wireText (replies : List Reply) : String :=
  String.join (replies.map Reply.wire)

/-- After hanging up, a server answers nothing and changes nothing. -/
theorem answerAll_of_closed
    (service : Service Session)
    (progress : Progress Session)
    (closed : progress.isOpen = false)
    (messages : List Incoming) :
    answerAll service progress messages = ([], progress) := by
  induction messages with
  | nil =>
      rfl
  | cons message rest inductionHypothesis =>
      simp [answerAll, answer, closed, inductionHypothesis]

end Postroom.Wire
