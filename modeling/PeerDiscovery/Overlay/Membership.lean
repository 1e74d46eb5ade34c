import PeerDiscovery.Overlay.Message

/-!
# Membership messages

A walker asks an introducer; the introducer asks a candidate to open a way back
to the walker, and tells the walker of the candidate; the candidate sends the
walker a puncture.  Then the walker knows the candidate's addresses, and its
next request gets through.
-/

namespace PeerDiscovery

namespace Activity

def hear {Value : Type} (activity : Activity) (signed : Signed Value) : Activity :=
  activity.onRegistry
    (·.updateClock signed.peer.memberId signed.globalTime activity.moment.now)

def verify (activity : Activity) (peer : Peer) : Activity :=
  activity.onRegistry fun registry =>
    (registry.verify peer).addServices peer.memberId [activity.service]

/-- Whether the overlay has as many peers as it takes. -/
def isFull (activity : Activity) : Bool :=
  activity.overlay.settings.maxPeers.any fun limit => limit ≤ activity.peers.length

def requestPuncture (activity : Activity) (candidate : Peer) (walker : Puncture) : Activity :=
  let (packet, activity) := activity.writePunctureRequest walker
  activity.sendToPeer candidate packet

/-- Verifies the requester and introduces it to some other peer, if there is one;
a full overlay does nothing. -/
def answerRequest (activity : Activity) (peer : Peer) (request : IntroductionRequest)
    (pick : Nat) : Activity :=
  if activity.isFull then activity.tell (.full peer)
  else
    let requester := peer.reporting request.sourceLan request.sourceWan
    let activity := activity.verify requester
    let introduced := activity.introduction? (some requester.memberId) pick
    let activity := match introduced with
      | some candidate =>
        activity.requestPuncture candidate ⟨requester.lan, requester.wan, request.identifier⟩
      | none => activity
    let (packet, activity) := activity.writeResponse requester request.identifier introduced
    activity.sendToPeer requester packet

/-- Logs that a sender saw this node at a WAN address while it had a LAN address. -/
def logWan (activity : Activity) (sender lan wan : Address) : Activity :=
  { activity with
    known := { activity.known with
      wanLog := activity.known.wanLog.add ⟨activity.moment.now, sender, lan, wan⟩ } }

/-- Logs the address at which a responder saw this node.  A responder on the own
network sees another address than the rest of the world. -/
def learnWan (activity : Activity) (sender wan : Address) : Activity :=
  if sender.isLan || sender.isLoopback || sender.isEmpty then activity
  else activity.logWan sender activity.lan wan

/-- Records that a peer introduced an address, unless it is an own one. -/
def discover (activity : Activity) (introducer : Peer) (address : Address) : Activity :=
  if address.isEmpty || address == activity.lan || address == activity.wan then activity
  else activity.onRegistry (·.discover introducer address (some activity.service))

/-- The addresses at which an introduced peer may be found.

A peer elsewhere is behind its WAN address; its LAN address is tried too, in
case its network is the own one.  A peer behind the own router is at its LAN
address.  If it tells none, its WAN address may work from inside, or the
peer runs on the own host with an unchanged port. -/
def candidates (ownLan ownWan lan wan : Address) : List Address :=
  if !wan.isEmpty && wan.ip != ownWan.ip then
    if lan.isEmpty then [wan] else [lan, wan]
  else if !lan.isEmpty && wan.ip == ownWan.ip then [lan]
  else if !wan.isEmpty then [wan, ⟨ownLan.ip, wan.port⟩]
  else []

/-- Verifies the responder, learns the own WAN address from it, and records where
the introduced peer may be found. -/
def takeResponse (activity : Activity) (peer : Peer) (response : IntroductionResponse) :
    Activity :=
  let activity := activity.learnWan peer.address response.destination
  let responder := peer.reporting response.sourceLan response.sourceWan
  let activity := activity.verify responder
  (candidates activity.lan activity.wan response.introLan response.introWan).foldl
    (fun activity address => activity.discover responder address) activity

/-- Where a walker is sent a puncture: behind the own router to its LAN address,
else to its WAN address. -/
def punctureTarget (ownWan : Address) (walker : Puncture) : Address :=
  if walker.wan.ip = ownWan.ip then walker.lan else walker.wan

def puncture (activity : Activity) (walker : Puncture) : Activity :=
  let target := punctureTarget activity.wan walker
  let (packet, activity) :=
    activity.writePuncture ⟨activity.lan, activity.wan, walker.identifier⟩
  activity.sendTo target packet

/-- Handles a membership message.  A puncture has done its work by arriving. -/
def takeMembership (activity : Activity) (message : MembershipMessage) (packet : Packet)
    (pick : Nat) : Except PacketError Activity := do
  let now := activity.moment.now
  match message with
  | .introductionRequest =>
    let signed ← packet.openSigned IntroductionRequest.format now
    return (activity.hear signed).answerRequest signed.peer signed.payload pick
  | .introductionResponse =>
    let signed ← packet.openSigned IntroductionResponse.format now
    return (activity.hear signed).takeResponse signed.peer signed.payload
  | .puncture =>
    let signed ← packet.openSigned Puncture.format now
    return activity.hear signed
  | .punctureRequest =>
    let unsigned ← packet.openUnsigned Puncture.format
    return activity.puncture unsigned.payload

end Activity

end PeerDiscovery
