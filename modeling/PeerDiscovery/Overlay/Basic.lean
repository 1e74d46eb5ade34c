import PeerDiscovery.Overlay.Notice
import PeerDiscovery.Overlay.Settings
import PeerDiscovery.Packet.Build
import PeerDiscovery.Registry.Query
import PeerDiscovery.WanLog
import Std.Data.ExtTreeMap

/-!
# Overlays

An overlay is one service of a node.  It has a table of handlers, a logical
clock that every packet advances, an estimate of the node's LAN address, and it
remembers when it last asked its bootstrap addresses.  The registry and the log
of reported WAN addresses are shared by all overlays of the node.

An application registers a handler for a message identifier.  The handler says
how the body of the packet is protected and in which format it is read; what it
reads is delivered to the application together with its origin.
-/

namespace PeerDiscovery

/-- How the body of a packet is protected. -/
inductive Protection where
  | unprotected
  | signed
  | signedAndSealed
deriving DecidableEq

/-- What an overlay does with the packets of one message identifier. -/
inductive Handler where
  | reads (protection : Protection) (format : Format Payload)
  | rejects (cause : PacketError)

/-- Where a delivered payload comes from. -/
inductive Origin where
  | member (member : MemberId)
  | address (address : Address)
deriving DecidableEq

@[ext]
structure Delivery where
  messageId : UInt8
  origin : Origin
  globalTime : UInt64
  payload : Payload
deriving DecidableEq

inductive Reaction where
  | membership (message : MembershipMessage)
  | application (handler : Handler)

/-- What all overlays of a node know together. -/
@[ext]
structure Neighbourhood where
  registry : Registry
  wanLog : WanLog

namespace Neighbourhood

def empty : Neighbourhood := ⟨.empty, .empty⟩

/-- The node's WAN address by majority, or the empty one. -/
def wan (known : Neighbourhood) : Address := known.wanLog.estimate?.getD .empty

end Neighbourhood

/-- One service of a node. -/
structure Overlay where
  key : PrivateKey
  settings : OverlaySettings
  handlers : Std.ExtTreeMap UInt8 Handler
  /-- The last global time that was claimed. -/
  globalTime : UInt64
  lan : Address
  lastBootstrap : Option Instant

/-- An overlay as it is asked for: settings, walks and handlers, where of two
handlers for one message identifier the later one counts. -/
structure OverlayPlan where
  settings : OverlaySettings
  walks : List WalkSettings := [{}]
  handlers : List (UInt8 × Handler) := []

namespace Overlay

def service (overlay : Overlay) : ServiceId := overlay.settings.service

def memberId (overlay : Overlay) : MemberId := overlay.key.publicKey.memberId

def self (overlay : Overlay) (now : Instant) : Peer := .seenAt (.own overlay.key) .empty false now

/-- The overlay with a handler for a message identifier.  The identifiers of the
membership messages are taken. -/
def withHandler (overlay : Overlay) (messageId : UInt8) (handler : Handler) : Overlay :=
  if (MembershipMessage.ofId? messageId).isSome then overlay
  else { overlay with handlers := overlay.handlers.insert messageId handler }

def reaction? (overlay : Overlay) (messageId : UInt8) : Option Reaction :=
  match MembershipMessage.ofId? messageId with
  | some message => some (.membership message)
  | none => overlay.handlers[messageId]?.map .application

def claimTime (overlay : Overlay) : Overlay :=
  { overlay with globalTime := overlay.globalTime + 1 }

def draft (overlay : Overlay) (messageId : UInt8) (isSigned : Bool) : Packet.Draft :=
  { service := overlay.service
    messageId
    globalTime := overlay.globalTime
    signer := if isSigned then some overlay.key else none }

def describe (overlay : Overlay) : String :=
  "Community \x7b service_id: " ++ overlay.service.describe ++ ", my_peer: " ++
    overlay.memberId.describe ++ ", global_time: " ++ toString overlay.globalTime.toNat ++
    ", .. \x7d"

end Overlay

namespace OverlayPlan

/-- The overlay as planned, before it knows anything. -/
def build (plan : OverlayPlan) (key : PrivateKey) : Overlay :=
  plan.handlers.foldl (fun overlay (messageId, handler) => overlay.withHandler messageId handler)
    { key
      settings := plan.settings
      handlers := ∅
      globalTime := 0
      lan := .empty
      lastBootstrap := none }

def notices (plan : OverlayPlan) : List Notice :=
  let ignored := plan.handlers.filter fun (messageId, _) =>
    (MembershipMessage.ofId? messageId).isSome
  ignored.map fun (messageId, _) => .ignoredHandler messageId

end OverlayPlan

end PeerDiscovery
