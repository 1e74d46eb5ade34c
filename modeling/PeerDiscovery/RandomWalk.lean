import PeerDiscovery.Overlay.Walk
import Std.Data.ExtTreeMap

/-!
# Random walks

Each step asks somebody for a new introduction and walks to one walkable address
that is not being walked to already.  A walk that stays unanswered longer than
the timeout is forgotten, and its address with it unless a verified peer is
there.  The walk rests while the overlay has the wanted number of peers.
-/

namespace PeerDiscovery

/-- A walk: its settings, when it walked to the addresses that have not timed
out, and when it last completed a step. -/
structure RandomWalk where
  settings : WalkSettings
  inFlight : Std.ExtTreeMap Address Instant
  lastStep : Option Instant

namespace RandomWalk

def start (settings : WalkSettings) : RandomWalk := ⟨settings, ∅, none⟩

def isSatisfied (walk : RandomWalk) (activity : Activity) : Bool :=
  walk.settings.targetPeers.any fun target => target ≤ activity.peers.length

def hasExpired (walk : RandomWalk) (now since : Instant) : Bool :=
  walk.settings.timeout ≤ since.elapsed now

def expired (walk : RandomWalk) (now : Instant) : List Address :=
  (walk.inFlight.filter fun _ since => walk.hasExpired now since).keys

def dropExpired (walk : RandomWalk) (now : Instant) : RandomWalk :=
  { walk with inFlight := walk.inFlight.filter fun _ since => !walk.hasExpired now since }

/-- Forgets an address that did not answer, unless a verified peer is there. -/
def forgetSilent (registry : Registry) (address : Address) : Registry :=
  if registry.isOccupied address then registry else registry.forgetAddress address

def isTooEarly (walk : RandomWalk) (now : Instant) : Bool :=
  walk.settings.interval ≠ 0 &&
    walk.lastStep.any fun last => last.elapsed now < walk.settings.interval

def isWindowFull (walk : RandomWalk) : Bool :=
  0 < walk.settings.window && walk.settings.window ≤ walk.inFlight.size

def advance (walk : RandomWalk) (activity : Activity) (draw : Draw) (pick : Nat) :
    RandomWalk × Activity :=
  let now := activity.moment.now
  let available := activity.walkable.filter fun address => !walk.inFlight.contains address
  let activity := activity.seekIntroduction draw
  let walk := { walk with lastStep := some now }
  match choose? available pick with
  | some address =>
    ({ walk with inFlight := walk.inFlight.insert address now }, activity.walkTo address)
  | none => (walk, activity)

def step (walk : RandomWalk) (activity : Activity) (draw : Draw) (pick : Nat) :
    RandomWalk × Activity :=
  if walk.isSatisfied activity then (walk, activity)
  else
    let now := activity.moment.now
    let activity := activity.onRegistry fun registry =>
      (walk.expired now).foldl forgetSilent registry
    let walk := walk.dropExpired now
    if walk.isTooEarly now || walk.isWindowFull then (walk, activity)
    else walk.advance activity draw pick

end RandomWalk

end PeerDiscovery
