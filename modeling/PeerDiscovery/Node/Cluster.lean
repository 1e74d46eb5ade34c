import PeerDiscovery.Node.Basic
import PeerDiscovery.Transport.Memory

/-!
# Nodes on a memory network

A cluster is a number of nodes whose transports are bound to one memory network.
All work that is waiting stands in one queue of errands and is done in the order
in which it came up: sending a datagram, emptying the inbox of a node, and
handing a received packet to the node's overlays.
-/

namespace PeerDiscovery

inductive Errand where
  | send (node : Nat) (datagram : Datagram)
  | collect (node : Nat)
  | dispatch (node : Nat) (packet : Packet)
deriving DecidableEq

structure Member where
  node : Node
  transport : Nat

/-- Nodes, their network, and what is waiting. -/
structure Cluster where
  network : MemoryNetwork
  members : List Member
  errands : List Errand
  notices : List Notice

namespace Cluster

def empty : Cluster := ⟨.empty, [], [], []⟩

def momentOf (cluster : Cluster) (member : Member) (now : Instant) : Moment :=
  ⟨now, !cluster.network.isClosed member.transport⟩

/-- What a node has sent and told is taken from it. -/
def collect (cluster : Cluster) (index : Nat) (member : Member) (node : Node) : Cluster :=
  let sends := (node.outbox.filter Datagram.isSendable).map (Errand.send index)
  let told := node.notices ++ node.outbox.filterMap Datagram.notice?
  { cluster with
    members := cluster.members.set index
      { member with node := { node with outbox := [], notices := [] } }
    errands := cluster.errands ++ sends
    notices := cluster.notices ++ told }

def act (cluster : Cluster) (index : Nat) (now : Instant) (work : Moment → Node → Node) : Cluster :=
  match cluster.members[index]? with
  | some member => cluster.collect index member (work (cluster.momentOf member now) member.node)
  | none => cluster

/-- A node is called, and the call may fail: how it went, and the cluster that it leaves. -/
def attempt (cluster : Cluster) (index : Nat) (now : Instant)
    (work : Moment → Node → Except NodeError Unit × Node) : Except NodeError Unit × Cluster :=
  match cluster.members[index]? with
  | some member =>
    let (result, node) := work (cluster.momentOf member now) member.node
    (result, cluster.collect index member node)
  | none => (.ok (), cluster)

/-- The node whose transport an address leads to, if it listens. -/
def listener? (cluster : Cluster) (address : SocketAddress) : Option Nat := do
  let transport ← cluster.network.routes[address]?
  cluster.members.findIdx? fun member => member.transport == transport && member.node.isRunning

/-- The inbox of the node that an address leads to is to be emptied. -/
def wake (cluster : Cluster) (address : SocketAddress) : Cluster :=
  match cluster.listener? address with
  | some index =>
    if cluster.errands.contains (.collect index) then cluster
    else { cluster with errands := cluster.errands ++ [Errand.collect index] }
  | none => cluster

def send (cluster : Cluster) (transport : Nat) (destination : SocketAddress) (data : Bytes) :
    Except TransportError (Nat × Cluster) := do
  let (size, network) ← cluster.network.send transport destination data
  return (size, { cluster with network }.wake destination)

/-- A transport sends a datagram, or it is told that it cannot. -/
def transmit (cluster : Cluster) (transport : Nat) (datagram : Datagram) : Cluster :=
  match cluster.send transport (.v4 datagram.destination) datagram.data with
  | .ok (_, sent) => sent
  | .error cause =>
    { cluster with notices := cluster.notices ++ [Notice.notSent datagram.destination cause] }

/-- A transport sends a datagram if any transport would. -/
def submit (cluster : Cluster) (transport : Nat) (datagram : Datagram) : Cluster :=
  let told := { cluster with notices := cluster.notices ++ datagram.notice?.toList }
  if datagram.isSendable then told.transmit transport datagram else told

def bind (cluster : Cluster) (address : SocketAddress) :
    Except TransportError SocketAddress × Cluster :=
  let (bound, network) := cluster.network.bind address
  (bound, { cluster with network })

/-- A transport receives the next datagram, whoever owns it. -/
def receive (cluster : Cluster) (transport capacity : Nat) : Receipt × Cluster :=
  let (receipt, network) := cluster.network.receive transport capacity
  (receipt, { cluster with network })

def close (cluster : Cluster) (transport : Nat) : Cluster :=
  { cluster with network := cluster.network.close transport }

/-- At most `limit` datagrams are received and wait to be handed over. -/
def drain (cluster : Cluster) (index transport : Nat) : Nat → Cluster
  | 0 => cluster
  | limit + 1 =>
    match cluster.receive transport maxDatagramSize with
    | (.datagram data source, received) =>
      let errands := match source.toAddress? with
        | some source => [Errand.dispatch index ⟨source, data⟩]
        | none => []
      drain { received with errands := received.errands ++ errands } index transport limit
    | _ => cluster

def emptyInbox (cluster : Cluster) (index : Nat) : Cluster :=
  match cluster.members[index]? with
  | some member =>
    let waiting := cluster.network.transports[member.transport]?.map (·.inbox.length)
    cluster.drain index member.transport (waiting.getD 0)
  | none => cluster

def perform (cluster : Cluster) (now : Instant) (pick : Nat) : Errand → Cluster
  | .send index datagram =>
    match cluster.members[index]? with
    | some member => cluster.transmit member.transport datagram
    | none => cluster
  | .collect index => cluster.emptyInbox index
  | .dispatch index packet =>
    cluster.act index now fun moment node => node.dispatch moment packet pick

def settle (cluster : Cluster) (now : Instant) (pick : Nat) : Nat → Cluster
  | 0 => cluster
  | limit + 1 =>
    match cluster.errands with
    | [] => cluster
    | errand :: rest => ({ cluster with errands := rest }.perform now pick errand).settle now pick limit

def patience : Nat := 1000000

def join (cluster : Cluster) (node : Node) (transport : Nat) : Cluster :=
  { cluster with members := cluster.members ++ [⟨node, transport⟩] }

/-- A node is started: it handles what has been waiting for it, and then takes
its first steps. -/
def start (cluster : Cluster) (index : Nat) (now : Instant) (draw : Draw) (pick : Nat) :
    Except NodeError Unit × Cluster :=
  match cluster.attempt index now fun moment node => node.start moment with
  | (.ok (), started) =>
    let waiting := { started with errands := started.errands ++ [Errand.collect index] }
    let handled := waiting.settle now pick patience
    (.ok (), handled.act index now fun moment node => node.tick moment draw pick)
  | failed => failed

def stop (cluster : Cluster) (index : Nat) (now : Instant) : Except NodeError Unit × Cluster :=
  match cluster.attempt index now fun _ node => node.stop with
  | (.ok (), stopped) =>
    match cluster.members[index]? with
    | some member => (.ok (), stopped.close member.transport)
    | none => (.ok (), stopped)
  | failed => failed

end Cluster

end PeerDiscovery
