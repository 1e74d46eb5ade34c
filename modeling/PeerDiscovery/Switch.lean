import PeerDiscovery.Overlay.Dispatch
import PeerDiscovery.RandomWalk

/-!
# Overlays on a switch

A switch connects overlays without any transport.  What an overlay sends goes to
the end of one queue, with the station's WAN address as source.  A datagram from
the front of the queue is received by the first station that its destination
belongs to, and is lost if there is none.
-/

namespace PeerDiscovery

@[ext]
structure Transit where
  source : Address
  destination : Address
  data : Bytes
deriving DecidableEq

/-- An overlay that is connected to a switch. -/
structure Station where
  overlay : Overlay
  /-- Which neighbourhood the overlay knows. -/
  home : Nat
  lan : Address
  wan : Address
  others : List Address
  isOpen : Bool
  walk : Option RandomWalk
  deliveries : List Delivery

namespace Station

def owns (station : Station) (address : Address) : Bool :=
  (!address.isEmpty && (address == station.lan || address == station.wan)) ||
    station.others.contains address

/-- The station as others may know it: at its WAN address, reporting both. -/
def peer (station : Station) (now : Instant) : Peer :=
  (Peer.seenAt (.theirs station.overlay.key.publicKey) station.wan false now).reporting
    station.lan station.wan

end Station

/-- Stations, what they know, what is on its way, and what they told. -/
structure Switch where
  stations : List Station
  neighbourhoods : List Neighbourhood
  queue : List Transit
  notices : List Notice

namespace Switch

def empty : Switch := ⟨[], [], [], []⟩

def knownTo (switch : Switch) (station : Station) : Neighbourhood :=
  switch.neighbourhoods[station.home]?.getD .empty

def begin (switch : Switch) (station : Station) (now : Instant) : Activity :=
  .start station.overlay (switch.knownTo station) ⟨now, station.isOpen⟩

def complete (switch : Switch) (index : Nat) (station : Station) (activity : Activity) : Switch :=
  let sent := activity.sent.map fun datagram => ⟨station.wan, datagram.destination, datagram.data⟩
  let station := { station with
    overlay := activity.overlay
    deliveries := station.deliveries ++ activity.deliveries }
  { stations := switch.stations.set index station
    neighbourhoods := switch.neighbourhoods.set station.home activity.known
    queue := switch.queue ++ sent
    notices := switch.notices ++ activity.notices }

def act (switch : Switch) (index : Nat) (now : Instant) (work : Activity → Activity) : Switch :=
  match switch.stations[index]? with
  | some station => switch.complete index station (work (switch.begin station now))
  | none => switch

def stepWalk (switch : Switch) (index : Nat) (now : Instant) (draw : Draw) (pick : Nat) : Switch :=
  match switch.stations[index]? with
  | some station =>
    match station.walk with
    | some walk =>
      let (walk, activity) := walk.step (switch.begin station now) draw pick
      switch.complete index { station with walk := some walk } activity
    | none => switch
  | none => switch

def owner? (switch : Switch) (address : Address) : Option Nat :=
  switch.stations.findIdx? fun station => station.owns address

def deliverNext (switch : Switch) (now : Instant) (pick : Nat) : Option (Transit × Switch) :=
  match switch.queue with
  | [] => none
  | transit :: rest =>
    let switch := { switch with queue := rest }
    match switch.owner? transit.destination with
    | some index =>
      some (transit, switch.act index now (·.receive ⟨transit.source, transit.data⟩ pick))
    | none => some (transit, switch)

/-- At most `limit` datagrams are received or lost, in order. -/
def pump (switch : Switch) (now : Instant) (pick : Nat) : Nat → List Transit × Switch
  | 0 => ([], switch)
  | limit + 1 =>
    match switch.deliverNext now pick with
    | none => ([], switch)
    | some (transit, next) =>
      let (transits, last) := next.pump now pick limit
      (transit :: transits, last)

/-- A further station for a planned overlay with at most one walk; it shares what
another station knows, or knows nothing. -/
def connect (switch : Switch) (key : PrivateKey) (plan : OverlayPlan) (shares : Option Nat)
    (lan wan : Address) (others : List Address) : Switch :=
  let shared := shares.bind fun index => switch.stations[index]?.map (·.home)
  let (home, neighbourhoods) := match shared with
    | some home => (home, switch.neighbourhoods)
    | none => (switch.neighbourhoods.length, switch.neighbourhoods ++ [Neighbourhood.empty])
  { switch with
    stations := switch.stations ++
      [{ overlay := plan.build key
         walk := plan.walks.head?.map RandomWalk.start
         home, lan, wan, others
         isOpen := true
         deliveries := [] }]
    neighbourhoods
    notices := switch.notices ++ plan.notices }

end Switch

end PeerDiscovery
