import PeerDiscovery.Peer
import PeerDiscovery.Transport.Basic

/-!
# Notices

What a node tells whoever watches it: as information, or as a warning.
-/

namespace PeerDiscovery

inductive NoticeLevel where
  | info
  | warning
deriving DecidableEq

inductive Notice where
  | loading (service : ServiceId) (member : MemberId)
  | unloading (service : ServiceId)
  /-- A handler was registered for a membership message. -/
  | ignoredHandler (messageId : UInt8)
  | rejected (messageId : UInt8) (source : Address) (cause : PacketError)
  | full (requester : Peer)
  | oversized (destination : Address) (size : Nat)
  | notSent (destination : Address) (cause : TransportError)
  | starting (member : MemberId) (bound : SocketAddress)
  | started (overlays : Nat)
  | stopped

namespace Notice

def level : Notice → NoticeLevel
  | ignoredHandler _ | rejected .. | oversized .. | notSent .. => .warning
  | _ => .info

def text : Notice → String
  | loading service member => "Loading overlay " ++ service.text ++ " for peer " ++ member.text
  | unloading service => "Unloading overlay " ++ service.text
  | ignoredHandler messageId =>
    "Ignoring handler for reserved message id " ++ toString messageId.toNat
  | rejected messageId source cause =>
    "Dropping message " ++ toString messageId.toNat ++ " from " ++ source.text ++ ": " ++
      cause.message
  | full requester =>
    "Dropping introduction request from " ++ requester.text ++ ", too many peers"
  | oversized destination size =>
    "Dropping oversized datagram to " ++ destination.text ++ ": " ++ toString size ++ " bytes"
  | notSent destination cause =>
    "Send to " ++ destination.text ++ " failed: " ++ cause.message
  | starting member bound => "Starting IPv8 node " ++ member.text ++ " on " ++ bound.text
  | started overlays => "IPv8 node started with " ++ toString overlays ++ " overlays"
  | stopped => "IPv8 node stopped"

end Notice

end PeerDiscovery
