import Postroom.Listener
import Postroom.Live.Log
import Postroom.Live.Place
import Postroom.Live.SystemError
import Postroom.Wire.Conversation
import Postroom.WorkerPool
import Std.Sync.CancellationToken
import Std.Sync.Channel

namespace Postroom.Live

/-!
# Serving clients

A listening server hands its connections to workers. All conversations work on
one shared mail room, which answers one line at a time. A server that is
stopped accepts nobody any more; conversations that are going on see the end
of the stream behind what has come in.
-/

open Std.Async

/-- A mail room that threads share. -/
structure SharedRoom where
  room : Std.Mutex MailRoom
  /-- Told whenever the room has changed. -/
  changed : Std.Condvar
  /-- How much mail may wait to be relayed. -/
  capacity : Nat

namespace SharedRoom

/-- Share a mail room. -/
def shared
    (room : MailRoom)
    (capacity : Nat) :
    BaseIO SharedRoom := do
  return ⟨← Std.Mutex.new room, ← Std.Condvar.new, max capacity 1⟩

/-- Whether a message may add to the queue. -/
def mayQueue : Wire.Incoming → Bool
  | .overlong =>
      false
  | .line text =>
      Submission.Command.ofLine text == .send

/-- Answer one message, once the queue has room for what it may add. -/
def answer
    (shared : SharedRoom)
    (service : Wire.Service Session)
    (session : Session)
    (message : Wire.Incoming) :
    IO (List Reply × Session × Bool) :=
  shared.room.atomicallyOnce shared.changed
    (do return !mayQueue message ||
      (← get).queue.length < shared.capacity)
    (do
      let (replies, progress) :=
        Wire.answer service ⟨session, ← get, true⟩ message
      set progress.room
      shared.changed.notifyAll
      return (replies, progress.session, progress.isOpen))

end SharedRoom

/-- The most bytes that are read from a connection at once. -/
def readSize : UInt64 :=
  8192

/-- The bytes of an array. -/
def bytesOf (array : ByteArray) : List UInt8 :=
  array.data.toList

/-- Send bytes over a connection. -/
def sendBytes
    (client : TCP.Socket.Client)
    (bytes : List UInt8) :
    IO Unit :=
  (client.send ⟨bytes.toArray⟩).block

/-- Send nothing more; a peer that is gone already is no error. -/
def hangUp (client : TCP.Socket.Client) : BaseIO Unit := do
  let _ ← (client.shutdown.block).toBaseIO

/-- The bytes that have come in already, when the server is stopped. -/
def receivePending (client : TCP.Socket.Client) : IO (Option ByteArray) := do
  let found ← (Selectable.tryOne
    #[.case (client.recvSelector readSize) pure]).block
  return found.join

/-- The next bytes of a connection, or nothing at its end. -/
def receive
    (stop : Std.CancellationToken)
    (client : TCP.Socket.Client) :
    IO (Option ByteArray) := do
  if ← stop.isCancelled then
    receivePending client
  else
    let came ← (Selectable.one
      #[.case (client.recvSelector readSize) fun bytes =>
          return some bytes,
        .case stop.selector fun _ =>
          return none]).block
    match came with
    | some bytes =>
        return bytes
    | none =>
        receivePending client

/-- What holds for every conversation of a listening server. -/
structure Serving (Session : Type) where
  name : String
  log : Log
  stop : Std.CancellationToken
  shared : SharedRoom
  service : Wire.Service Session

namespace Serving

/-- Answer messages up to the one that ends the session. -/
def answerAll
    (serving : Serving Session)
    (client : TCP.Socket.Client)
    (session : Session) :
    List Wire.Incoming →
    IO (Session × Bool)
  | [] =>
      return (session, true)
  | message :: rest => do
      let (replies, next, isOpen) ←
        serving.shared.answer serving.service session message
      sendBytes client (Text.encode (Wire.wireText replies))
      if isOpen then
        serving.answerAll client next rest
      else
        return (next, false)

/-- Read and answer lines to the end of the session or the stream. -/
partial def converse
    (serving : Serving Session)
    (client : TCP.Socket.Client)
    (session : Session)
    (pending : List UInt8) :
    IO Unit := do
  match ← receive serving.stop client with
  | none =>
      let _ ←
        serving.answerAll client session (Wire.incoming pending)
  | some bytes =>
      let (messages, behind) :=
        Wire.takeComplete (pending ++ bytesOf bytes)
      let (next, isOpen) ← serving.answerAll client session messages
      if isOpen then
        serving.converse client next behind

/-- Serve one connection. -/
def serveClient
    (serving : Serving Session)
    (client : TCP.Socket.Client) :
    BaseIO Unit := do
  let conversation : IO Unit := do
    let service := serving.service
    sendBytes client (Text.encode service.greeting.wire)
    serving.converse client service.start []
    hangUp client
  match ← conversation.toBaseIO with
  | .ok () =>
      return ()
  | .error error =>
      serving.log.write .warning
        (serving.name ++ " session ended with error: " ++ reason error)

/-- Take connections until no more will come. -/
partial def work
    (serving : Serving Session)
    (listener : IO.Ref Listener)
    (waiting : Std.CloseableChannel (Nat × TCP.Socket.Client)) :
    BaseIO Unit := do
  match ← IO.wait (← waiting.recv) with
  | none =>
      return ()
  | some (number, client) =>
      serving.serveClient client
      listener.modify (·.forget number)
      serving.work listener waiting

/-- The next connection, unless the server is stopped. -/
def accept?
    (serving : Serving Session)
    (server : TCP.Socket.Server) :
    IO (Option TCP.Socket.Client) :=
  (Selectable.one
    #[.case server.acceptSelector fun client =>
        return some client,
      .case serving.stop.selector fun _ =>
        return none]).block

/-- Accept connections, with one more worker for each until there are enough. -/
partial def acceptAll
    (serving : Serving Session)
    (server : TCP.Socket.Server)
    (listener : IO.Ref Listener)
    (waiting : Std.CloseableChannel (Nat × TCP.Socket.Client))
    (workers : IO.Ref (List (Task (Except IO.Error Unit))))
    (idle : Nat) :
    IO Unit := do
  let some client ← serving.accept? server
    | return ()
  let handed ← listener.modifyGet fun current =>
    match current.hand with
    | none =>
        (none, current)
    | some (number, next) =>
        (some number, next)
  let some number := handed
    | return ()
  let _ ← waiting.send (number, client)
  if 0 < idle then
    let worker ←
      IO.asTask (serving.work listener waiting) Task.Priority.dedicated
    workers.modify (worker :: ·)
  serving.acceptAll server listener waiting workers (idle - 1)

/-- Serve the clients of a listening server until it is stopped. -/
def run
    (serving : Serving Session)
    (server : TCP.Socket.Server)
    (workerLimit : Nat) :
    IO Unit := do
  let listener ← IO.mkRef (Listener.named serving.name)
  let waiting ← Std.CloseableChannel.new
  let workers ← IO.mkRef []
  let place := ofSystemSocket (← server.getSockName)
  serving.log.write .info
    (serving.name ++ " accepts connections on " ++ place.text)
  try
    serving.acceptAll server listener waiting workers
      (WorkerPool.workerCount workerLimit)
  catch error =>
    serving.log.write .error
      (serving.name ++ " cannot accept: " ++ reason error)
    serving.stop.cancel
  listener.modify Listener.stop
  serving.log.write .debug
    (serving.name ++ " stopped with " ++
      toString (← listener.get).connections.length ++ " open connections")
  let _ ← waiting.close.toBaseIO
  for worker in ← workers.get do
    let _ ← IO.wait worker
  serving.log.write .info (serving.name ++ " has finished")

end Serving

end Postroom.Live
