import Postroom.Live.Serving
import Postroom.Monitoring.Collector
import Postroom.Network
import Postroom.Relay.Dispatch
import Postroom.Settings

namespace Postroom.Live

/-!
# Relaying over the network

Each attempt of a router's plan is one connection on which the email is
submitted. Consumers take waiting mail from the shared mail room until the
room is closed and nothing waits any more. Successful attempts are reported to
a collector, if there is one.
-/

open Std.Async

/-- What a read that is bounded in time gives. -/
inductive Received where
  | bytes (received : List UInt8)
  | endOfStream
  | timedOut

/-- The next bytes of a connection, if they come soon enough. -/
def receiveWithin
    (client : TCP.Socket.Client)
    (milliseconds : UInt64) :
    IO Received :=
  Async.block do
    let timeout ← Selector.sleep ⟨milliseconds.toNat⟩
    Selectable.one
      #[.case (client.recvSelector readSize) fun
          | some received =>
              return .bytes (bytesOf received)
          | none =>
              return .endOfStream,
        .case timeout fun _ =>
          return .timedOut]

/-- Wait for the bytes of one line. -/
partial def awaitLine
    (client : TCP.Socket.Client)
    (milliseconds : UInt64)
    (connection : Submission.Connection Unit) :
    IO (Submission.Connection Unit) := do
  if connection.closed || Wire.isComplete connection.inbox then
    return connection
  else
    match ← receiveWithin client milliseconds with
    | .bytes received =>
        awaitLine client milliseconds
          (connection.arrive ⟨received, false⟩ ())
    | .endOfStream =>
        return connection.arrive ⟨[], true⟩ ()
    | .timedOut =>
        return connection

/-- Read one line. -/
def readReply
    (client : TCP.Socket.Client)
    (milliseconds : UInt64)
    (connection : Submission.Connection Unit) :
    IO (Except Submission.Error String × Submission.Connection Unit) := do
  return (← awaitLine client milliseconds connection).readLine

/-- Send commands one after another, up to the first that fails. -/
def sendCommands
    (client : TCP.Socket.Client)
    (milliseconds : UInt64)
    (connection : Submission.Connection Unit) :
    List Submission.Command →
    IO (Except Submission.Error Unit)
  | [] =>
      return .ok ()
  | command :: rest => do
      sendBytes client (Wire.sendLine command.line)
      let (read, next) ← readReply client milliseconds connection
      match Submission.judge command read with
      | .error error =>
          return .error error
      | .ok _ =>
          sendCommands client milliseconds next rest

/-- Submit one email over a connection that has just been made. -/
def submitOver
    (client : TCP.Socket.Client)
    (milliseconds : UInt64)
    (email : Email) :
    IO (Except Submission.Error Unit) := do
  let (greeting, connection) ←
    readReply client milliseconds ⟨(), [], false⟩
  match Submission.judgeGreeting greeting with
  | .error error =>
      return .error error
  | .ok () =>
      let result ←
        sendCommands client milliseconds connection
          (Submission.commandsFor email)
      if result.isOk then
        let goodbye :=
          sendBytes client
            (Wire.sendLine Submission.Command.quit.line)
        let _ ← goodbye.toBaseIO
        hangUp client
      return result

/-- Connect to a place, if that succeeds soon enough. -/
def connectTo
    (milliseconds : UInt64)
    (place : SocketAddress) :
    IO TCP.Socket.Client := do
  let client ← TCP.Socket.Client.mk
  let connected ← Async.block
    (Async.race
      (do
        client.connect (toSystem place)
        return true)
      (do
        sleep ⟨milliseconds.toNat⟩
        return false))
  if connected then
    return client
  else
    throw (IO.userError "connection timed out")

/-- The places at which an authority can be reached. -/
def authorityPlaces (authority : Authority) : IO (List SocketAddress) :=
  match SocketAddress.ofText? authority.text with
  | some place =>
      return [place]
  | none =>
      places authority.host authority.port

/-- Sends one datagram for each successful attempt and waits for the answer. -/
structure Reporter where
  collector : SocketAddress
  /-- In milliseconds. -/
  timeout : UInt64

namespace Reporter

/-- A reporter whose collector has been looked up. -/
def ofTarget (target : CollectorTarget) : IO Reporter := do
  match ← places target.host target.port with
  | place :: _ =>
      return ⟨place, target.timeout⟩
  | [] =>
      throw (IO.userError
        ("monitoring host " ++ target.host ++ " did not resolve"))

/-- Send a report and read the collector's answer, if it comes soon enough. -/
def send
    (reporter : Reporter)
    (report : Monitoring.Report) :
    IO (Option String) := do
  match Monitoring.datagram? report with
  | none =>
      return none
  | some bytes =>
      let socket ← UDP.Socket.mk
      Async.block do
        socket.send ⟨bytes.toArray⟩ (some (toSystem reporter.collector))
        let timeout ← Selector.sleep ⟨reporter.timeout.toNat⟩
        Selectable.one
          #[.case
              (socket.recvSelector
                (UInt64.ofNat Monitoring.datagramWindow))
              fun (answer, _) =>
                return some (Monitoring.readAnswer (bytesOf answer)),
            .case timeout fun _ =>
              return none]

end Reporter

/-- What the consumers of a relay queue work with. -/
structure Relaying where
  log : Log
  router : Relay.Router
  reporter? : Option Reporter
  /-- In milliseconds. -/
  connectTimeout : UInt64
  /-- In milliseconds. -/
  readTimeout : UInt64

namespace Relaying

/-- Report an attempt that succeeded. -/
def report
    (relaying : Relaying)
    (attempt : Relay.Attempt) :
    BaseIO Unit := do
  if let (some reporter, some report) :=
      (relaying.reporter?, attempt.report?) then
    match ← (reporter.send report).toBaseIO with
    | .ok (some _) =>
        return ()
    | .ok none =>
        relaying.log.write .warning "delivery report was not answered"
    | .error error =>
        relaying.log.write .warning
          ("delivery report failed: " ++ reason error)

/-- Submit an email to an authority. -/
def submit
    (relaying : Relaying)
    (authority : Authority)
    (email : Email) :
    IO (Except Submission.Error SocketAddress) := do
  let client ←
    firstThatWorks (authority.text ++ " did not resolve")
      (connectTo relaying.connectTimeout)
      (← authorityPlaces authority)
  let carrier := ofSystemSocket (← client.getSockName)
  let result ← submitOver client relaying.readTimeout email
  return result.map fun _ => carrier

/-- Make one attempt and report it. -/
def attempt
    (relaying : Relaying)
    (authority : Authority)
    (email : Email) :
    BaseIO (Option SocketAddress) := do
  let outcome : Except Submission.Error SocketAddress ←
    match ← (relaying.submit authority email).toBaseIO with
    | .ok outcome =>
        pure outcome
    | .error error =>
        pure (.error (.io (reason error)))
  match outcome with
  | .ok carrier =>
      relaying.log.write .info
        ("mail of " ++ email.sender ++ " relayed to " ++ authority.text)
      relaying.report ⟨authority, email, some carrier⟩
      return some carrier
  | .error error =>
      relaying.log.write .error
        ("mail of " ++ email.sender ++ " not relayed to " ++
          authority.text ++ ": " ++ error.message)
      return none

/-- Make the attempts of a plan. -/
def follow
    (relaying : Relaying) :
    Relay.Plan →
    BaseIO Relay.Outcome
  | .finished outcome =>
      return outcome
  | .attempting authority email next => do
      let carrier? ← relaying.attempt authority email
      relaying.follow (next carrier?)

/-- Say what became of an email if nobody took it. -/
def logOutcome
    (relaying : Relaying)
    (email : Email)
    (outcome : Relay.Outcome) :
    BaseIO Unit :=
  match outcome with
  | .dropped =>
      relaying.log.write .warning
        ("sender domain of " ++ email.sender ++ " unknown, mail dropped")
  | .unroutable domains =>
      relaying.log.write .warning
        ("no recipient domain known: " ++ String.intercalate ", " domains)
  | .delivered taken bounced =>
      relaying.log.write .debug
        ("mail of " ++ email.sender ++ " taken " ++ toString taken ++
          " times, bounced " ++ toString bounced ++ " times")

/-- The next email that waits, or nothing once the room is closed. -/
def take?
    (shared : SharedRoom) :
    IO (Option Email) :=
  shared.room.atomicallyOnce shared.changed
    (do
      let room ← get
      return !room.queue.isEmpty || room.intake == .closedQueue)
    (do
      match (← get).queue with
      | [] =>
          return none
      | email :: rest =>
          modify fun room => { room with queue := rest }
          shared.changed.notifyAll
          return some email)

/-- Relay waiting mail until the room is closed and nothing waits. -/
partial def consume
    (relaying : Relaying)
    (shared : SharedRoom) :
    IO Unit := do
  match ← take? shared with
  | none =>
      return ()
  | some email =>
      let outcome ← relaying.follow (relaying.router.plan email)
      relaying.logOutcome email outcome
      relaying.consume shared

/-- Take no more mail, and let the consumers finish what waits. -/
def close (shared : SharedRoom) : IO Unit :=
  shared.room.atomically do
    modify fun room => { room with intake := .closedQueue }
    shared.changed.notifyAll

/-- Relay waiting mail with some consumers until the room is closed. -/
def run
    (relaying : Relaying)
    (shared : SharedRoom)
    (consumers : Nat) :
    IO Unit := do
  let tasks ← (List.range (max consumers 1)).mapM fun _ =>
    IO.asTask (relaying.consume shared) Task.Priority.dedicated
  for task in tasks do
    let _ ← IO.wait task

end Relaying

end Postroom.Live
