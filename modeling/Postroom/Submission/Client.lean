import Postroom.Submission.Command
import Postroom.Submission.Error
import Postroom.Email
import Postroom.Wire.Line

namespace Postroom.Submission

/-!
# Submitting clients

A client sends one command at a time and goes on when the server has answered
it as it should: with `ok`, or, to a recipient list, with `ok` and a detail.
What is at the other end is left open. A peer sees what the client writes and
sends bytes in return, at once, in pieces of lines or many lines together.
-/

/-- What a peer sends in answer to one write. -/
structure Sent where
  bytes : List UInt8
  /-- Whether the peer sends nothing more from here on. -/
  closes : Bool

/-- The other end of a client's connection. -/
structure Peer (State : Type) where
  /-- What the peer sends when the connection is made. -/
  greet : State → Sent × State
  /-- What the peer sends when the client has written some bytes. -/
  receive : State → List UInt8 → Sent × State

/-- The client's side of a connection. -/
structure Connection (State : Type) where
  peer : State
  /-- The bytes that came in and were not read yet. -/
  inbox : List UInt8
  /-- Whether nothing more will come in. -/
  closed : Bool

/-- The reason of a read that found no line in time. -/
def timedOut : String :=
  "Resource temporarily unavailable (os error 11)"

/-- The reply that a read gave, or why there is none. -/
def replyOf : Option Wire.Incoming → Except Error String
  | none =>
      .error .connectionClosed
  | some .overlong =>
      .error (.io Error.lineTooLong.message)
  | some (.line text) =>
      .ok text

/-- The greeting of a server that takes mail in. -/
def expectedGreeting : String :=
  "ok DMTP"

/-- Whether a reply lets the client go on behind a command. -/
def isGoodReply
    (command : Command)
    (reply : String) :
    Bool :=
  reply == "ok" ||
    match command with
    | .to _ =>
        Text.startsWith "ok " reply
    | _ =>
        false

/-- What the client makes of the greeting that it read. -/
def judgeGreeting (read : Except Error String) : Except Error Unit :=
  match read with
  | .error error =>
      .error error
  | .ok greeting =>
      if greeting = expectedGreeting then
        .ok ()
      else
        .error (.unexpectedReply "connect" greeting)

/-- What the client makes of the reply that it read behind a command. -/
def judge
    (command : Command)
    (read : Except Error String) :
    Except Error String :=
  match read with
  | .error error =>
      .error error
  | .ok reply =>
      if isGoodReply command reply then
        .ok reply
      else
        .error (.unexpectedReply command.line reply)

/-- The commands that submit one email. -/
def commandsFor (email : Email) : List Command :=
  [
    .begin,
    .to email.recipientList,
    .sender email.sender,
    .subject email.subject,
    .data email.data,
    .send
  ]

namespace Connection

/-- Take in what the peer sent. -/
def arrive
    (connection : Connection State)
    (sent : Sent)
    (peer : State) :
    Connection State :=
  if connection.closed then
    { connection with peer := peer }
  else
    ⟨peer, connection.inbox ++ sent.bytes, sent.closes⟩

/-- Write one line. -/
def writeLine
    (connection : Connection State)
    (peer : Peer State)
    (text : String) :
    Connection State :=
  let (sent, next) :=
    peer.receive connection.peer (Wire.sendLine text)
  connection.arrive sent next

/-- Read one line. -/
def readLine
    (connection : Connection State) :
    Except Error String × Connection State :=
  if connection.closed || Wire.isComplete connection.inbox then
    match Wire.readLine? connection.inbox with
    | none =>
        (replyOf none, connection)
    | some (first, behind) =>
        (replyOf (some first), { connection with inbox := behind })
  else
    (.error (.io timedOut), { connection with inbox := [] })

end Connection

/-- Wait for the greeting of a peer. -/
def connect
    (peer : Peer State)
    (state : State) :
    Except Error Unit × Connection State :=
  let (sent, next) := peer.greet state
  let start : Connection State := ⟨next, [], false⟩
  let (read, connection) := (start.arrive sent next).readLine
  (judgeGreeting read, connection)

/-- Send one command and wait for its reply. -/
def ask
    (peer : Peer State)
    (connection : Connection State)
    (command : Command) :
    Except Error String × Connection State :=
  let (read, next) :=
    (connection.writeLine peer command.line).readLine
  (judge command read, next)

/-- Send commands one after another, up to the first that fails. -/
def askAll
    (peer : Peer State) :
    Connection State →
    List Command →
    Except Error Unit × Connection State
  | connection, [] =>
      (.ok (), connection)
  | connection, command :: rest =>
      match ask peer connection command with
      | (.error error, next) =>
          (.error error, next)
      | (.ok _, next) =>
          askAll peer next rest

/-- Say goodbye without waiting for an answer. -/
def quit
    (peer : Peer State)
    (connection : Connection State) :
    Connection State :=
  connection.writeLine peer Command.quit.line

/-- Submit one email over a connection of its own. -/
def submit
    (peer : Peer State)
    (state : State)
    (email : Email) :
    Except Error Unit × State :=
  match connect peer state with
  | (.error error, connection) =>
      (.error error, connection.peer)
  | (.ok (), connection) =>
      match askAll peer connection (commandsFor email) with
      | (.error error, next) =>
          (.error error, next.peer)
      | (.ok (), next) =>
          (.ok (), (quit peer next).peer)

end Postroom.Submission
