import PeerDiscovery.Transport.Basic
import Std.Data.ExtTreeMap

/-!
# Transports in memory

A memory network carries datagrams between transports of one process.  Its
routing table leads from a socket address to the transport that was bound there
last; a datagram to any other address is lost, and its sender does not notice.

Closing a transport removes the route of its address.  A transport that is open,
but to which no route leads any more, has nothing to wait for once its inbox is
empty.
-/

namespace PeerDiscovery

@[ext]
structure Arrival where
  data : Bytes
  source : SocketAddress
deriving DecidableEq

@[ext]
structure MemoryTransport where
  address : SocketAddress
  isClosed : Bool
  /-- What has arrived and was not received yet, in order. -/
  inbox : List Arrival
  sent : Traffic
  received : Traffic
deriving DecidableEq

namespace MemoryTransport

def boundTo (address : SocketAddress) : MemoryTransport :=
  { address
    isClosed := false
    inbox := []
    sent := .none
    received := .none }

end MemoryTransport

/-- What a transport answers when asked for the next datagram. -/
inductive Receipt where
  /-- The datagram, cut off where the receiver's space ends. -/
  | datagram (data : Bytes) (source : SocketAddress)
  | pending
  | closed
deriving DecidableEq

/-- All transports that were ever bound, the routing table, and the counter from
which ports are chosen. -/
structure MemoryNetwork where
  transports : Array MemoryTransport
  routes : Std.ExtTreeMap SocketAddress Nat
  nextPort : UInt16

namespace MemoryNetwork

def empty : MemoryNetwork := ⟨#[], ∅, 0⟩

/-- The port that a value of the counter stands for: ports count from 49152 on,
and then from 1 on. -/
def portOf (counter : UInt16) : UInt16 := max 1 (49152 + counter)

def withPort : SocketAddress → UInt16 → SocketAddress
  | .v4 address, port => .v4 { address with port }
  | .v6 ip _ scope, port => .v6 ip port scope

def portIn : SocketAddress → UInt16
  | .v4 address => address.port
  | .v6 _ port _ => port

/-- The first free port that the counter comes to in so many steps, with the
counter behind it. -/
def freePort? (network : MemoryNetwork) (address : SocketAddress) (counter : UInt16) :
    Nat → Option (SocketAddress × UInt16)
  | 0 => none
  | steps + 1 =>
    let candidate := withPort address (portOf counter)
    if network.routes.contains candidate then
      network.freePort? address (counter + 1) steps
    else some (candidate, counter + 1)

/-- The address that is bound when some address is asked for: for port zero, one
with a free port. -/
def choose? (network : MemoryNetwork) (address : SocketAddress) : Option (SocketAddress × UInt16) :=
  if portIn address = 0 then network.freePort? address network.nextPort 65536
  else some (address, network.nextPort)

/-- Binds a new transport, which gets the next index.  The counter moves on even
if the address is taken. -/
def bind (network : MemoryNetwork) (address : SocketAddress) :
    Except TransportError SocketAddress × MemoryNetwork :=
  match network.choose? address with
  | none => (.error (.addressInUse address), network)
  | some (bound, nextPort) =>
    let network := { network with nextPort }
    if network.routes.contains bound then (.error (.addressInUse bound), network)
    else (.ok bound,
      { network with
        transports := network.transports.push (.boundTo bound)
        routes := network.routes.insert bound network.transports.size })

def isClosed (network : MemoryNetwork) (index : Nat) : Bool :=
  network.transports[index]?.all (·.isClosed)

def modify (network : MemoryNetwork) (index : Nat) (change : MemoryTransport → MemoryTransport) :
    MemoryNetwork :=
  { network with transports := network.transports.modify index change }

/-- A datagram arrives where the routing table leads. -/
def deliver (network : MemoryNetwork) (destination : SocketAddress) (arrival : Arrival) :
    MemoryNetwork :=
  match network.routes[destination]? with
  | some index =>
    network.modify index fun transport => { transport with inbox := transport.inbox ++ [arrival] }
  | none => network

/-- Sends a datagram, whether or not anybody receives it, and tells how many bytes
were sent. -/
def send (network : MemoryNetwork) (index : Nat) (destination : SocketAddress) (data : Bytes) :
    Except TransportError (Nat × MemoryNetwork) :=
  match network.transports[index]? with
  | none => .error .closed
  | some transport =>
    if transport.isClosed then .error .closed
    else
      let delivered := network.deliver destination ⟨data, transport.address⟩
      .ok (data.length, delivered.modify index fun transport =>
        { transport with sent := transport.sent.count data.length })

/-- Receives the next datagram into a space of limited size. -/
def receive (network : MemoryNetwork) (index capacity : Nat) : Receipt × MemoryNetwork :=
  match network.transports[index]? with
  | none => (.closed, network)
  | some transport =>
    if transport.isClosed then (.closed, network)
    else match transport.inbox with
      | arrival :: rest =>
        let data := arrival.data.take capacity
        (.datagram data arrival.source, network.modify index fun transport =>
          { transport with
            inbox := rest
            received := transport.received.count data.length })
      | [] =>
        if network.routes[transport.address]? = some index then (.pending, network)
        else (.closed, network)

/-- Closes a transport and removes the route of its address. -/
def close (network : MemoryNetwork) (index : Nat) : MemoryNetwork :=
  match network.transports[index]? with
  | none => network
  | some transport =>
    { network with
      transports := network.transports.modify index fun transport =>
        { transport with isClosed := true }
      routes := network.routes.erase transport.address }

end MemoryNetwork

end PeerDiscovery
