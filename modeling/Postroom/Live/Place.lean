import Postroom.IpAddress
import Std.Async.DNS
import Std.Async.TCP
import Std.Async.Timer
import Std.Async.UDP

namespace Postroom.Live

/-!
# Places on the network

Hosts are looked up, and a host and a port become the socket addresses that
can be bound or connected to. Of several addresses, the first that works is
taken.
-/

open Std.Async

/-- A socket address as the system takes it. -/
def toSystem (address : SocketAddress) : Std.Net.SocketAddress :=
  match address.ip with
  | .v4 octets =>
      .v4
        ⟨⟨#v[octets.first, octets.second, octets.third, octets.fourth]⟩,
          address.port⟩
  | .v6 groups =>
      .v6 ⟨⟨groups⟩, address.port⟩

/-- An address as the system gives it. -/
def ofSystem (address : Std.Net.IPAddr) : IpAddress :=
  match address with
  | .v4 ⟨octets⟩ =>
      .v4 ⟨octets[0], octets[1], octets[2], octets[3]⟩
  | .v6 ⟨segments⟩ =>
      .v6 segments

/-- A socket address as the system gives it. -/
def ofSystemSocket (address : Std.Net.SocketAddress) : SocketAddress :=
  match address with
  | .v4 ⟨ip, port⟩ =>
      ⟨ofSystem (.v4 ip), port⟩
  | .v6 ⟨ip, port⟩ =>
      ⟨ofSystem (.v6 ip), port⟩

/-- The addresses of a host. -/
def lookUp (host : String) : IO (List IpAddress) := do
  match IpAddress.ofText? host with
  | some ip =>
      return [ip]
  | none =>
      let found ← (DNS.getAddrInfo host "").block
      return found.toList.map ofSystem

/-- The socket addresses of a host and a port. -/
def places (host : String) (port : UInt16) : IO (List SocketAddress) := do
  return (← lookUp host).map fun ip => ⟨ip, port⟩

/-- Use the first of some places that can be used. -/
def firstThatWorks
    (unresolved : String)
    (use : SocketAddress → IO α) :
    List SocketAddress →
    IO α
  | [] =>
      throw (IO.userError unresolved)
  | [last] =>
      use last
  | place :: rest => do
      try
        use place
      catch _ =>
        firstThatWorks unresolved use rest

/-- The reason of an error when a host has no address. -/
def unresolvedReason : String :=
  "could not resolve to any addresses"

/-- How many connections wait until they are accepted. -/
def backlog : UInt32 :=
  128

/-- Listen for connections. -/
def listenAt
    (host : String)
    (port : UInt16) :
    IO TCP.Socket.Server := do
  firstThatWorks unresolvedReason (fun place => do
    let socket ← TCP.Socket.Server.mk
    socket.bind (toSystem place)
    socket.listen backlog
    return socket) (← places host port)

/-- Wait for datagrams. -/
def receiveAt
    (host : String)
    (port : UInt16) :
    IO UDP.Socket := do
  firstThatWorks unresolvedReason (fun place => do
    let socket ← UDP.Socket.mk
    socket.bind (toSystem place)
    return socket) (← places host port)

end Postroom.Live
