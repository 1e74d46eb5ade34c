import PeerDiscovery.Address.Text
import PeerDiscovery.Key.Basic
import PeerDiscovery.Circumstances

/-!
# Peers

A peer is what is known of a member: its key, the address it was last seen at,
the addresses it reports of itself, its logical clock, and when it was last
sent to and heard from.  A newer record of the same member is merged into the
known one: addresses that are not empty replace the known ones, clocks and
marks only move forward.
-/

namespace PeerDiscovery

/-- What is known of a member. -/
@[ext]
structure Peer where
  key : Key
  address : Address
  /-- The addresses the peer believes to have. -/
  lan : Address
  wan : Address
  /-- The peer is known from an introduction only. -/
  intro : Bool
  clock : UInt64
  lastRequest : Option Instant
  lastResponse : Option Instant

namespace Peer

/-- A peer seen at an address; one that is known from an introduction only has
not been heard from. -/
def seenAt (key : Key) (address : Address) (intro : Bool) (now : Instant) : Peer :=
  { key, address, intro
    lan := .empty
    wan := .empty
    clock := 0
    lastRequest := none
    lastResponse := if intro then none else some now }

def memberId (peer : Peer) : MemberId := peer.key.memberId

def reporting (peer : Peer) (lan wan : Address) : Peer :=
  { peer with lan, wan }

def isConnected (peer : Peer) : Bool := !peer.address.isEmpty

def updateClock (peer : Peer) (time : UInt64) (now : Instant) : Peer :=
  { peer with
    clock := max peer.clock time
    lastResponse := some now }

/-- A known address, replaced by one that is not empty. -/
def newerAddress (known observed : Address) : Address :=
  if observed.isEmpty then known else observed

/-- The known record with a newer one of the same member folded in. -/
def merge (known observed : Peer) : Peer :=
  { known with
    address := newerAddress known.address observed.address
    lan := newerAddress known.lan observed.lan
    wan := newerAddress known.wan observed.wan
    clock := max known.clock observed.clock
    lastRequest := Instant.latest? known.lastRequest observed.lastRequest
    lastResponse := Instant.latest? known.lastResponse observed.lastResponse }

def text (peer : Peer) : String :=
  "Peer<" ++ peer.address.text ++ ", " ++ peer.memberId.text ++ ">"

def describe (peer : Peer) : String :=
  "Peer \x7b mid: " ++ peer.memberId.describe ++ ", address: " ++ peer.address.text ++
    ", lan: " ++ peer.lan.text ++ ", wan: " ++ peer.wan.text ++ ", lamport: " ++
    toString peer.clock.toNat ++ " \x7d"

end Peer

end PeerDiscovery
