import PeerDiscovery.Overlay.Activity

/-!
# Writing messages

Every packet claims a new global time.  An introduction request carries its
global time, shortened, as identifier; the other membership messages repeat the
identifier of the request they belong to.
-/

namespace PeerDiscovery

namespace IntroductionRequest

/-- The identifier of a request made at a global time. -/
def identifierAt (time : UInt64) : UInt16 := .ofNat (time.toNat % 65535)

end IntroductionRequest

namespace Activity

def write (activity : Activity) (messageId : UInt8) (isSigned : Bool) (payload : Bytes) :
    Bytes × Activity :=
  let activity := activity.claimTime
  ((activity.overlay.draft messageId isSigned).frame payload, activity)

/-- A signed packet at a new global time, sealed for a recipient.  The time is
claimed even if sealing fails. -/
def writeSealed (activity : Activity) (messageId : UInt8) (payload : Bytes) (recipient : PublicKey)
    (fresh : SealingNonce) : Except PacketError Bytes × Activity :=
  let activity := activity.claimTime
  let draft := activity.overlay.draft messageId true
  ({ draft with isSealed := true, recipient := some recipient }.build fresh payload, activity)

/-- The request for an introduction that goes to an address at the overlay's
current global time. -/
def request (activity : Activity) (destination : Address) (extra : Bytes) : IntroductionRequest :=
  { destination
    sourceLan := activity.lan
    sourceWan := activity.wan
    advice := true
    connection := activity.known.wanLog.connection
    identifier := IntroductionRequest.identifierAt activity.overlay.globalTime
    extra }

def writeRequest (activity : Activity) (destination : Address) (extra : Bytes) :
    Bytes × Activity :=
  activity.write MembershipMessage.introductionRequest.id true
    (activity.claimTime.request destination extra).encode

/-- The answer to a requester, which may introduce a peer. -/
def response (activity : Activity) (requester : Peer) (identifier : UInt16)
    (introduced : Option Peer) : IntroductionResponse :=
  { destination := requester.address
    sourceLan := activity.lan
    sourceWan := activity.wan
    introLan := (introduced.map (·.lan)).getD .empty
    introWan := (introduced.map (·.wan)).getD .empty
    connection := activity.known.wanLog.connection
    tunnel := false
    identifier
    extra := [] }

def writeResponse (activity : Activity) (requester : Peer) (identifier : UInt16)
    (introduced : Option Peer) : Bytes × Activity :=
  activity.write MembershipMessage.introductionResponse.id true
    (activity.response requester identifier introduced).encode

def writePuncture (activity : Activity) (puncture : Puncture) : Bytes × Activity :=
  activity.write MembershipMessage.puncture.id true puncture.encode

def writePunctureRequest (activity : Activity) (walker : Puncture) : Bytes × Activity :=
  activity.write MembershipMessage.punctureRequest.id false walker.encode

end Activity

end PeerDiscovery
