import PeerDiscovery.Circumstances
import PeerDiscovery.Registry.Basic

/-!
# Questions to the registry

An address is walkable when it is known and no verified peer is at it.  Asked
for a service, only the peers that advertise the service count, and the address
must have been introduced through the service or by a member that advertises
it: services tend to spread along introductions.
-/

namespace PeerDiscovery

namespace Registry

def peersFor (registry : Registry) (service : ServiceId) : List (MemberId × Peer) :=
  registry.peers.filter fun (member, _) => registry.advertises member service

/-- The verified peers that count for a service, or all of them. -/
def peersForAny (registry : Registry) : Option ServiceId → List (MemberId × Peer)
  | none => registry.peers
  | some service => registry.peersFor service

def leadsTo (registry : Registry) (introduction : Introduction) : Option ServiceId → Bool
  | none => true
  | some service =>
    introduction.service == some service ||
      introduction.introducer.any fun member => registry.advertises member service

/-- The known addresses that can be walked to, for a service or for any, in
order. -/
def walkable (registry : Registry) (service : Option ServiceId) : List Address :=
  let occupied := (registry.peersForAny service).map fun (_, peer) => peer.address
  let free := registry.addresses.toList.filter fun (address, introduction) =>
    !occupied.contains address && registry.leadsTo introduction service
  free.map (·.1)

def peersAt (registry : Registry) (address : Address) : List (MemberId × Peer) :=
  registry.peers.filter fun (_, peer) => peer.address == address

def peerWithKey? (registry : Registry) (key : Bytes) : Option (MemberId × Peer) :=
  registry.peers.find? fun (_, peer) => peer.key.publicKey.encode == key

/-- The addresses that a member introduced, in order. -/
def introducedBy (registry : Registry) (member : MemberId) : List Address :=
  let introduced := registry.addresses.toList.filter fun (_, introduction) =>
    introduction.introducer == some member
  introduced.map (·.1)

def randomPeer? (registry : Registry) (pick : Nat) : Option (MemberId × Peer) :=
  choose? registry.peers pick

def somePeers (registry : Registry) (count : Nat) : List (MemberId × Peer) :=
  registry.peers.take count

end Registry

end PeerDiscovery
