import PeerDiscovery.Peer
import Std.Data.ExtTreeMap

/-!
# The registry of a node

The registry holds every address the node has heard of and who introduced it,
the peers it has verified, the services that members advertise, and what is
blocked.  All overlays of a node share one registry.

The tables are extensional, so two registries that answer every question alike
are equal, whatever happened in which order.
-/

namespace PeerDiscovery

/-- Who told of an address, and through which service.  An address known from
direct contact has no introducer. -/
@[ext]
structure Introduction where
  introducer : Option MemberId
  service : Option ServiceId
deriving DecidableEq

namespace Introduction

def direct : Introduction := ⟨none, none⟩

end Introduction

/-- Known addresses, verified peers, advertised services, and what is blocked. -/
@[ext]
structure Registry where
  addresses : Std.ExtTreeMap Address Introduction
  verified : Std.ExtTreeMap MemberId Peer
  services : Std.ExtTreeMap MemberId (Std.ExtTreeSet ServiceId)
  blockedAddresses : Std.ExtTreeSet Address
  blockedMembers : Std.ExtTreeSet MemberId

namespace Registry

def empty : Registry := ⟨∅, ∅, ∅, ∅, ∅⟩

def isBlocked (registry : Registry) (address : Address) : Bool :=
  registry.blockedAddresses.contains address

def isVerified (registry : Registry) (member : MemberId) : Bool :=
  registry.verified.contains member

/-- Records an address that was seen directly, unless it is known already, empty
or blocked. -/
def rememberAddress (registry : Registry) (address : Address) : Registry :=
  if address.isEmpty || registry.isBlocked address then registry
  else { registry with addresses := registry.addresses.insertIfNew address .direct }

def setPeer (registry : Registry) (member : MemberId) (peer : Peer) : Registry :=
  { registry with verified := registry.verified.insert member peer }

/-- Verifies a peer, or merges it into the known record of the same member.

A blocked member is ignored.  A known member never moves to a blocked address.
A new one is accepted at a known or empty address, and at any other address
that is not blocked, which then becomes known. -/
def verify (registry : Registry) (peer : Peer) : Registry :=
  let member := peer.memberId
  if registry.blockedMembers.contains member then registry
  else match registry.verified[member]? with
    | some known =>
      let observed := if registry.isBlocked peer.address then { peer with address := .empty } else peer
      (registry.rememberAddress observed.address).setPeer member (known.merge observed)
    | none =>
      if registry.addresses.contains peer.address || peer.address.isEmpty then
        registry.setPeer member peer
      else if registry.isBlocked peer.address then registry
      else (registry.rememberAddress peer.address).setPeer member peer

/-- Whether a new introduction of an address is recorded: when the address is
unknown, was seen directly, or its introducer is no longer verified. -/
def takesIntroduction (registry : Registry) (address : Address) : Bool :=
  match registry.addresses[address]? with
  | none => true
  | some known =>
    match known.introducer with
    | none => true
    | some introducer => !registry.isVerified introducer

/-- A peer introduces an address, and is then verified itself. -/
def discover (registry : Registry) (peer : Peer) (address : Address)
    (service : Option ServiceId) : Registry :=
  let recorded := !registry.isBlocked address && !address.isEmpty &&
    registry.takesIntroduction address
  let registry :=
    if recorded then
      { registry with
        addresses := registry.addresses.insert address ⟨some peer.memberId, service⟩ }
    else registry
  registry.verify peer

def servicesOf (registry : Registry) (member : MemberId) : Std.ExtTreeSet ServiceId :=
  registry.services.getD member ∅

def addServices (registry : Registry) (member : MemberId) (services : List ServiceId) :
    Registry :=
  { registry with
    services := registry.services.insert member
      (services.foldl (fun known service => known.insert service)
        (registry.servicesOf member)) }

def advertises (registry : Registry) (member : MemberId) (service : ServiceId) : Bool :=
  (registry.servicesOf member).contains service

/-- Forgets an address and every verified peer at it. -/
def forgetAddress (registry : Registry) (address : Address) : Registry :=
  { registry with
    addresses := registry.addresses.erase address
    verified :=
      if address.isEmpty then registry.verified
      else registry.verified.filter fun _ peer => peer.address != address }

def isOccupied (registry : Registry) (address : Address) : Bool :=
  registry.verified.toList.any fun (_, peer) => peer.address == address

/-- Forgets a verified peer with its services, and its address unless another
verified peer is there. -/
def forgetPeer (registry : Registry) (member : MemberId) : Registry :=
  let remaining := { registry with
    verified := registry.verified.erase member
    services := registry.services.erase member }
  match registry.verified[member]? with
  | none => remaining
  | some peer =>
    if remaining.isOccupied peer.address then remaining
    else { remaining with addresses := registry.addresses.erase peer.address }

/-- Never records an address again, nor a peer at it. -/
def blockAddress (registry : Registry) (address : Address) : Registry :=
  { registry with blockedAddresses := registry.blockedAddresses.insert address }

def blockMember (registry : Registry) (member : MemberId) : Registry :=
  { registry with blockedMembers := registry.blockedMembers.insert member }

/-- The verified peers with their members, in the order of members. -/
def peers (registry : Registry) : List (MemberId × Peer) :=
  registry.verified.toList

/-- A verified peer at an address: of several the first one in the order of
members. -/
def peerAt? (registry : Registry) (address : Address) : Option (MemberId × Peer) :=
  registry.peers.find? fun (_, peer) => peer.address == address

def markHeard (registry : Registry) (address : Address) (now : Instant) : Registry :=
  match registry.peerAt? address with
  | some (member, peer) => registry.setPeer member { peer with lastResponse := some now }
  | none => registry

def markSent (registry : Registry) (address : Address) (now : Instant) : Registry :=
  match registry.peerAt? address with
  | some (member, peer) => registry.setPeer member { peer with lastRequest := some now }
  | none => registry

def updateClock (registry : Registry) (member : MemberId) (time : UInt64) (now : Instant) :
    Registry :=
  match registry.verified[member]? with
  | some peer => registry.setPeer member (peer.updateClock time now)
  | none => registry

end Registry

end PeerDiscovery
