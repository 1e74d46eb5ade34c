import PeerDiscovery.Overlay.Message

/-!
# Walking

An overlay finds peers by sending introduction requests: to an address, to all
bootstrap addresses at once but not too often, or to a known peer, where now and
then a bootstrap address is asked instead, so that an overlay that fell apart
grows together again.
-/

namespace PeerDiscovery

namespace Activity

def walkTo (activity : Activity) (destination : Address) : Activity :=
  let (packet, activity) := activity.writeRequest destination []
  activity.sendTo destination packet

/-- Whether the bootstrap addresses may be asked again. -/
def bootstrapIsDue (activity : Activity) : Bool :=
  activity.moment.isOpen &&
    activity.overlay.lastBootstrap.all fun last =>
      activity.overlay.settings.bootstrapInterval ≤ last.elapsed activity.moment.now

/-- Asks every bootstrap address, at most once per interval. -/
def bootstrap (activity : Activity) : Activity :=
  if activity.bootstrapIsDue then
    let activity := { activity with
      overlay := { activity.overlay with lastBootstrap := some activity.moment.now } }
    activity.overlay.settings.bootstrap.foldl walkTo activity
  else activity

/-- Whether a bootstrap address is asked although peers are known. -/
def resets (activity : Activity) (coin : Nat) : Bool :=
  let settings := activity.overlay.settings
  !settings.bootstrap.isEmpty && activity.moment.isOpen && settings.resetChance.exceeds coin

/-- Asks somebody for an introduction: a known peer or a bootstrap address, or
all bootstrap addresses if no peer is known. -/
def seekIntroduction (activity : Activity) (draw : Draw) : Activity :=
  let addresses := activity.peers.map (·.address)
  if addresses.isEmpty then activity.bootstrap
  else
    let candidates :=
      if activity.resets draw.coin then activity.overlay.settings.bootstrap else addresses
    match choose? candidates draw.pick with
    | some destination => activity.walkTo destination
    | none => activity

def seekIntroductionFrom (activity : Activity) (peer : Peer) : Activity :=
  activity.walkTo peer.address

end Activity

end PeerDiscovery
