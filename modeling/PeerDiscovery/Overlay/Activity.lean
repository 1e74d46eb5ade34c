import PeerDiscovery.Overlay.Basic

/-!
# An overlay at work

Whatever an overlay does starts from the overlay, what its node knows, and the
moment; it changes the first two, and leaves behind what was sent, what is told,
and what is delivered to the application.

What it sends is handed to its node's transport.  A datagram without destination
is dropped silently, one that no transport carries with a notice, and one that
the transport refuses is told as well.
-/

namespace PeerDiscovery

@[ext]
structure Datagram where
  destination : Address
  data : Bytes
deriving DecidableEq

namespace Datagram

/-- Whether a transport is to send the datagram at all. -/
def isSendable (datagram : Datagram) : Bool :=
  !datagram.destination.isEmpty && datagram.data.length ≤ maxDatagramSize

def notice? (datagram : Datagram) : Option Notice :=
  if !datagram.destination.isEmpty && maxDatagramSize < datagram.data.length then
    some (.oversized datagram.destination datagram.data.length)
  else none

end Datagram

structure Moment where
  now : Instant
  isOpen : Bool

/-- An overlay at work. -/
structure Activity where
  overlay : Overlay
  known : Neighbourhood
  moment : Moment
  sent : List Datagram
  notices : List Notice
  deliveries : List Delivery

namespace Activity

def start (overlay : Overlay) (known : Neighbourhood) (moment : Moment) : Activity :=
  { overlay, known, moment
    sent := []
    notices := []
    deliveries := [] }

def wan (activity : Activity) : Address := activity.known.wan

def lan (activity : Activity) : Address := activity.overlay.lan

def service (activity : Activity) : ServiceId := activity.overlay.service

def onRegistry (activity : Activity) (change : Registry → Registry) : Activity :=
  { activity with known := { activity.known with registry := change activity.known.registry } }

def tell (activity : Activity) (notice : Notice) : Activity :=
  { activity with notices := activity.notices ++ [notice] }

def claimTime (activity : Activity) : Activity :=
  { activity with overlay := activity.overlay.claimTime }

def peers (activity : Activity) : List Peer :=
  (activity.known.registry.peersFor activity.service).map (·.2)

def walkable (activity : Activity) : List Address :=
  activity.known.registry.walkable (some activity.service)

/-- A peer of the overlay to introduce to a member: anybody else. -/
def introduction? (activity : Activity) (excluded : Option MemberId) (pick : Nat) : Option Peer :=
  choose? (activity.peers.filter fun peer => some peer.memberId != excluded) pick

/-- Sends to an address, and notes the request with the peer verified there. -/
def sendTo (activity : Activity) (destination : Address) (data : Bytes) : Activity :=
  let activity := activity.onRegistry (·.markSent destination activity.moment.now)
  { activity with sent := activity.sent ++ [⟨destination, data⟩] }

/-- Where a peer is reached: where the registry has it, else where its record
says. -/
def whereabouts (activity : Activity) (peer : Peer) : Address :=
  (activity.known.registry.verified[peer.memberId]?.getD peer).address

def sendToPeer (activity : Activity) (peer : Peer) (data : Bytes) : Activity :=
  activity.sendTo (activity.whereabouts peer) data

/-- Keeps the node itself and the bootstrap addresses out of the registry. -/
def load (activity : Activity) : Activity :=
  let overlay := activity.overlay
  let blocked := activity.onRegistry fun registry =>
    overlay.settings.bootstrap.foldl Registry.blockAddress (registry.blockMember overlay.memberId)
  blocked.tell (.loading overlay.service overlay.memberId)

def unload (activity : Activity) : Activity :=
  activity.tell (.unloading activity.service)

/-- Adopts an estimate of the LAN address.  Reports that were made while another
one held are void. -/
def adoptLan (activity : Activity) (lan : Address) : Activity :=
  if activity.lan = lan then activity
  else
    { activity with
      overlay := { activity.overlay with lan }
      known := { activity.known with wanLog := .empty } }

end Activity

end PeerDiscovery
