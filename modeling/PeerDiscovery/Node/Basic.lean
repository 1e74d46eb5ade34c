import PeerDiscovery.Node.Settings
import PeerDiscovery.Overlay.Dispatch
import PeerDiscovery.RandomWalk

/-!
# Nodes

A node runs overlays over one transport and one neighbourhood.  It has a life:
it is started, overlays are added and removed while it runs, and it is stopped,
which closes its transport for good.  What its overlays send and tell is kept
until somebody takes it.

Every overlay that is loaded gets a slot of its own.  The running overlays and
the walkers are two lists, and each of them refers to overlays by their slots:
a walker goes on with its overlay until somebody dismisses it, whether or not
the overlay still runs.  A call returns how it went and the node that it leaves,
also when it fails halfway.
-/

namespace PeerDiscovery

/-- A walk, and the slot of the overlay that it is for. -/
structure Walker where
  slot : Nat
  walk : RandomWalk

structure Node where
  settings : NodeSettings
  key : PrivateKey
  bound : SocketAddress
  isRunning : Bool
  /-- Whether an overlay that is loaded finds a way to the transport. -/
  hasEndpoint : Bool
  known : Neighbourhood
  /-- Every overlay that was ever loaded, each in its slot. -/
  slots : List Overlay
  /-- The slots of the running overlays in the order in which they were added. -/
  overlays : List Nat
  walkers : List Walker
  outbox : List Datagram
  notices : List Notice
  deliveries : List Delivery

namespace Node

/-- A node that has not been started; its settings have no fault. -/
def create (settings : NodeSettings) (key : PrivateKey) (bound : SocketAddress) :
    Except NodeError Node :=
  match settings.validate with
  | .error cause => .error cause
  | .ok () =>
    .ok
      { settings, key, bound
        isRunning := false
        hasEndpoint := false
        known := .empty
        slots := []
        overlays := []
        walkers := []
        outbox := []
        notices := []
        deliveries := [] }

def memberId (node : Node) : MemberId := node.key.publicKey.memberId

/-- The running overlays in the order in which they were added. -/
def running (node : Node) : List Overlay := node.overlays.filterMap fun slot => node.slots[slot]?

def service? (node : Node) (slot : Nat) : Option ServiceId := node.slots[slot]?.map (·.service)

def services (node : Node) : List ServiceId := node.overlays.filterMap node.service?

/-- The slot of the first running overlay of a service. -/
def slotOf? (node : Node) (service : ServiceId) : Option Nat :=
  node.overlays.find? fun slot => node.service? slot == some service

def tell (node : Node) (notice : Notice) : Node :=
  { node with notices := node.notices ++ [notice] }

def setRunning (node : Node) (isRunning : Bool) : Node := { node with isRunning }

/-- What an activity of the overlay in a slot leaves behind. -/
def absorb (node : Node) (slot : Nat) (activity : Activity) : Node :=
  { node with
    slots := node.slots.set slot activity.overlay
    known := activity.known
    outbox := node.outbox ++ activity.sent
    notices := node.notices ++ activity.notices
    deliveries := node.deliveries ++ activity.deliveries }

def employ (node : Node) (moment : Moment) (work : Activity → Activity) (slot : Nat) : Node :=
  match node.slots[slot]? with
  | some overlay => node.absorb slot (work (.start overlay node.known moment))
  | none => node

/-- The overlays in some slots do something, one after the other. -/
def perform (node : Node) (moment : Moment) (work : Activity → Activity) (slots : List Nat) :
    Node :=
  slots.foldl (fun node slot => node.employ moment work slot) node

/-- The application has the overlay of a service do something. -/
def act (node : Node) (moment : Moment) (service : ServiceId) (work : Activity → Activity) : Node :=
  match node.slotOf? service with
  | some slot => node.employ moment work slot
  | none => node

/-- A packet is handed to the overlays in some slots, one after the other. -/
def hand (node : Node) (moment : Moment) (packet : Packet) (pick : Nat) (slots : List Nat) : Node :=
  node.perform moment (fun activity => activity.receive packet pick) slots

def dispatch (node : Node) (moment : Moment) (packet : Packet) (pick : Nat) : Node :=
  node.hand moment packet pick node.overlays

def stepWalker (node : Node) (moment : Moment) (draw : Draw) (pick : Nat) (walker : Walker) :
    Walker × Node :=
  match node.slots[walker.slot]? with
  | some overlay =>
    let (walk, activity) := walker.walk.step (.start overlay node.known moment) draw pick
    ({ walker with walk }, node.absorb walker.slot activity)
  | none => (walker, node)

def stepWalkers (node : Node) (moment : Moment) (draw : Draw) (pick : Nat) :
    List Walker → List Walker × Node
  | [] => ([], node)
  | walker :: rest =>
    let (walker, stepped) := node.stepWalker moment draw pick walker
    let (others, last) := stepped.stepWalkers moment draw pick rest
    (walker :: others, last)

/-- Every walker takes a step, unless the transport is closed. -/
def tick (node : Node) (moment : Moment) (draw : Draw) (pick : Nat) : Node :=
  if moment.isOpen then
    let (walkers, last) := node.stepWalkers moment draw pick node.walkers
    { last with walkers }
  else node

/-- Every overlay adopts the estimate that the bound address allows. -/
def estimateLan (node : Node) (moment : Moment) : Node :=
  match node.bound.localAddress? with
  | some lan => node.perform moment (fun activity => activity.adoptLan lan) node.overlays
  | none => node

def house (node : Node) (plan : OverlayPlan) : Node :=
  { node with
    slots := node.slots ++ [plan.build node.key]
    notices := node.notices ++ plan.notices }

/-- The overlay of a plan moves in, is loaded, gets its walkers, and runs. -/
def install (node : Node) (moment : Moment) (plan : OverlayPlan) : Node :=
  let slot := node.slots.length
  let loaded := (node.house plan).employ moment Activity.load slot
  { loaded with
    walkers := loaded.walkers ++ plan.walks.map fun settings => ⟨slot, .start settings⟩
    overlays := loaded.overlays ++ [slot] }

/-- Loads one more overlay, the last one in order. -/
def loadOverlay (node : Node) (moment : Moment) (plan : OverlayPlan) :
    Except NodeError Unit × Node :=
  if node.services.contains plan.service then (.error (.duplicateOverlay plan.service), node)
  else match plan.validate with
    | .error cause => (.error cause, node)
    | .ok () =>
      if node.hasEndpoint then (.ok (), node.install moment plan) else (.error .notRunning, node)

/-- Loads overlays one after the other, until one of them fails. -/
def loadOverlays (node : Node) (moment : Moment) : List OverlayPlan → Except NodeError Unit × Node
  | [] => (.ok (), node)
  | plan :: rest =>
    match node.loadOverlay moment plan with
    | (.ok (), loaded) => loaded.loadOverlays moment rest
    | failed => failed

/-- Dismisses all walkers, lets go of the transport, and unloads all overlays. -/
def unloadAll (node : Node) : Node :=
  { node with
    walkers := []
    hasEndpoint := false
    overlays := []
    notices := node.notices ++ node.services.map Notice.unloading }

/-- Tells that the node starts, and finds the way to the transport. -/
def connect (node : Node) : Node :=
  { node.tell (.starting node.memberId node.bound) with hasEndpoint := true }

/-- Starts the node with the overlays of its settings.  The node counts as running while it
loads them, and no longer when one of them fails. -/
def start (node : Node) (moment : Moment) : Except NodeError Unit × Node :=
  if node.isRunning then (.error .alreadyStarted, node)
  else
    let entered := node.setRunning true
    if moment.isOpen then
      match entered.connect.loadOverlays moment entered.settings.overlays with
      | (.ok (), loaded) =>
        let estimated := loaded.estimateLan moment
        (.ok (), estimated.tell (.started estimated.overlays.length))
      | (.error cause, halfway) => (.error cause, (halfway.setRunning false).unloadAll)
    else (.error (.transport .closed), entered.setRunning false)

/-- Stops the node; its transport is to be closed as well. -/
def stop (node : Node) : Except NodeError Unit × Node :=
  if node.isRunning then (.ok (), (node.setRunning false).unloadAll.tell .stopped)
  else (.error .notRunning, node)

def addOverlay (node : Node) (moment : Moment) (plan : OverlayPlan) :
    Except NodeError Unit × Node :=
  if node.isRunning then
    match node.loadOverlay moment plan with
    | (.ok (), loaded) => (.ok (), loaded.estimateLan moment)
    | failed => failed
  else (.error .notRunning, node)

/-- The overlay in a slot runs no longer, and the walkers for that slot are dismissed. -/
def dismiss (node : Node) (slot : Nat) : Node :=
  { node with
    overlays := node.overlays.erase slot
    walkers := node.walkers.filter fun walker => walker.slot != slot }

def removeOverlay (node : Node) (service : ServiceId) : Except NodeError Unit × Node :=
  match node.slotOf? service with
  | some slot => (.ok (), (node.dismiss slot).tell (.unloading service))
  | none => (.error (.unknownOverlay service), node)

end Node

end PeerDiscovery
