import Postroom.Live.Log
import Postroom.Live.Place
import Postroom.Live.Serving
import Postroom.Monitoring.Collector

namespace Postroom.Live

/-!
# Collecting reports over the network

A collector counts and answers datagrams until it is stopped.
-/

open Std.Async

/-- The next datagram and where it came from, unless the collector is stopped. -/
def nextDatagram?
    (stop : Std.CancellationToken)
    (socket : UDP.Socket) :
    IO (Option (ByteArray × Option Std.Net.SocketAddress)) :=
  (Selectable.one
    #[.case
        (socket.recvSelector (UInt64.ofNat Monitoring.datagramWindow))
        fun datagram =>
          return some datagram,
      .case stop.selector fun _ =>
        return none]).block

/-- Count and answer datagrams until the collector is stopped. -/
partial def collectDatagrams
    (log : Log)
    (stop : Std.CancellationToken)
    (socket : UDP.Socket)
    (statistics : Monitoring.Statistics) :
    IO Monitoring.Statistics := do
  match ← nextDatagram? stop socket with
  | none =>
      return statistics
  | some (datagram, sender?) =>
      let (answer, next) :=
        Monitoring.collect statistics (bytesOf datagram)
      if answer = Monitoring.formatError then
        log.write .warning "malformed report"
      let sending : IO Unit :=
        (socket.send answer.toUTF8 sender?).block
      match ← sending.toBaseIO with
      | .ok () =>
          collectDatagrams log stop socket next
      | .error error =>
          log.write .warning ("answer failed: " ++ reason error)
          collectDatagrams log stop socket next

end Postroom.Live
