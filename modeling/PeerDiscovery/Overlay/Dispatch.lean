import PeerDiscovery.Overlay.Membership

/-!
# Receiving packets

A packet that does not start with the overlay's header is for somebody else.
Any other packet shows that the peer at its source is alive; then its message
identifier selects who handles it.  A rejected packet leaves a notice.
-/

namespace PeerDiscovery

namespace Activity

def deliver (activity : Activity) (delivery : Delivery) : Activity :=
  { activity with deliveries := activity.deliveries ++ [delivery] }

/-- Delivers a signed payload, and moves the signer's clock forward. -/
def deliverSigned (activity : Activity) (messageId : UInt8) (signed : Signed Payload) : Activity :=
  (activity.hear signed).deliver
    ⟨messageId, .member signed.peer.memberId, signed.globalTime, signed.payload⟩

def takeApplication (activity : Activity) (handler : Handler) (messageId : UInt8)
    (packet : Packet) : Except PacketError Activity := do
  let now := activity.moment.now
  match handler with
  | .rejects cause => throw cause
  | .reads .unprotected format =>
    let unsigned ← packet.openUnsigned format
    return activity.deliver
      ⟨messageId, .address packet.source, unsigned.globalTime, unsigned.payload⟩
  | .reads .signed format =>
    return activity.deliverSigned messageId (← packet.openSigned format now)
  | .reads .signedAndSealed format =>
    return activity.deliverSigned messageId
      (← packet.openSealed format activity.overlay.key now)

def react (activity : Activity) (reaction : Reaction) (messageId : UInt8) (packet : Packet)
    (pick : Nat) : Except PacketError Activity :=
  match reaction with
  | .membership message => activity.takeMembership message packet pick
  | .application handler => activity.takeApplication handler messageId packet

def receive (activity : Activity) (packet : Packet) (pick : Nat) : Activity :=
  if packet.hasHeader activity.service then
    let activity := activity.onRegistry (·.markHeard packet.source activity.moment.now)
    match packet.messageId? with
    | none => activity
    | some messageId =>
      match activity.overlay.reaction? messageId with
      | none => activity
      | some reaction =>
        match activity.react reaction messageId packet pick with
        | .ok next => next
        | .error cause => activity.tell (.rejected messageId packet.source cause)
  else activity

end Activity

end PeerDiscovery
