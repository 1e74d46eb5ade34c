import PeerDiscovery.Address.Socket

/-!
# Transports

A transport carries datagrams between socket addresses.  It counts what it sends
and what it receives, modulo `2 ^ 64`.
-/

namespace PeerDiscovery

inductive TransportError where
  | closed
  | addressInUse (address : SocketAddress)
deriving DecidableEq

namespace TransportError

def message : TransportError → String
  | closed => "transport is closed"
  | addressInUse address => "failed to bind to " ++ address.text ++ ": address in use"

end TransportError

@[ext]
structure Traffic where
  packets : UInt64
  bytes : UInt64
  errors : UInt64
deriving DecidableEq

namespace Traffic

def none : Traffic := ⟨0, 0, 0⟩

def count (traffic : Traffic) (size : Nat) : Traffic :=
  { traffic with
    packets := traffic.packets + 1
    bytes := traffic.bytes + .ofNat size }

end Traffic

/-- The largest datagram that any transport carries. -/
def maxDatagramSize : Nat := 65507

end PeerDiscovery
