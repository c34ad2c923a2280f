import Postroom.Relay.Queue
import Postroom.Submission.Client
import Postroom.Wire.Conversation

namespace Postroom

/-!
# Networks of mail servers

Mailbox servers stand at authorities, and a transfer server relays submitted
mail to them: it serves its clients, then takes the queue in order and opens
one submission for each attempt. An authority without a server refuses
connections.
-/

/-- The server's side of a connection, as the peer of a submitting client. -/
def serverPeer
    (service : Wire.Service Session) :
    Submission.Peer (Wire.Progress Session) where
  greet progress :=
    (⟨Text.encode service.greeting.wire, false⟩, progress)
  receive progress bytes :=
    let (replies, next) :=
      Wire.answerAll service progress (Wire.incoming bytes)
    (⟨Text.encode (Wire.wireText replies), !next.isOpen⟩, next)

/-- The mail rooms of the servers that can be reached. -/
abbrev Network :=
  List (Authority × MailRoom)

namespace Network

/-- The mail room of the server at an authority. -/
def room?
    (network : Network)
    (authority : Authority) :
    Option MailRoom :=
  List.lookup authority network

/-- Replace the mail room of the server at an authority. -/
def setRoom
    (network : Network)
    (authority : Authority)
    (room : MailRoom) :
    Network :=
  network.map fun server =>
    if server.1 = authority then (authority, room) else server

/-- Submit an email to the server at an authority. -/
def submit
    (carrier : SocketAddress) :
    Relay.Outbound Network :=
  fun network authority email =>
    match network.room? authority with
    | none =>
        (none, network)
    | some room =>
        let (result, progress) :=
          Submission.submit (serverPeer Wire.submission)
            ⟨.start, room, true⟩ email
        (if result.isOk then some carrier else none,
          network.setRoom authority progress.room)

/-- One connection to the server at an authority. -/
def connect
    (network : Network)
    (service : Wire.Service Session)
    (authority : Authority)
    (stream : List UInt8) :
    List Reply × Network :=
  match network.room? authority with
  | none =>
      ([], network)
  | some room =>
      let (replies, later) := Wire.serve service room stream
      (replies, network.setRoom authority later)

end Network

/-- The address that signs bounces for a server that listens at an address. -/
def mailerAddress (ip : IpAddress) : IpAddress :=
  if ip.isUnspecified then IpAddress.loopback else ip

/-- The mail room of a transfer server. -/
def transferRoom : MailRoom :=
  ⟨.queue, .empty, .empty, []⟩

/-- Serve submitting clients one after another. -/
def serveClients
    (room : MailRoom) :
    List (List UInt8) →
    List (List Reply) × MailRoom
  | [] =>
      ([], room)
  | stream :: rest =>
      let (replies, next) := Wire.serve Wire.submission room stream
      let (others, last) := serveClients next rest
      (replies :: others, last)

/-- What a transfer server did from its start to its shutdown. -/
structure TransferRun where
  /-- The replies to each client. -/
  conversations : List (List Reply)
  attempts : List Relay.Attempt
  network : Network

/-- Serve some clients, then shut down behind the last email of the queue. -/
def runTransfer
    (router : Relay.Router)
    (carrier : SocketAddress)
    (network : Network)
    (streams : List (List UInt8)) :
    TransferRun :=
  let (conversations, room) := serveClients transferRoom streams
  let shift :=
    router.run (Network.submit carrier) network
      (room.queue.map .deliver ++ [.shutdown])
  ⟨conversations, shift.attempts, shift.state⟩

end Postroom
