import PeerDiscovery.Node.Basic
import PeerDiscovery.Proofs.Overlay.Clocks
import PeerDiscovery.Proofs.Overlay.Estimates

/-!
# What a node is, whatever its overlays do

The packets that a node receives, the walks of its overlays and what the application has
them send change what the node knows, and the clocks of its overlays.  They change neither
which overlays run and how these were configured, nor the walkers, nor the LAN address of any
overlay.  The `standing` of a node is all of that, so an activity of its overlays is one that
keeps the standing.
-/

namespace PeerDiscovery

/-- What of an overlay no packet and no initiative changes: what decides how it reads packets,
and its estimate of the LAN address. -/
abbrev Footing := (PrivateKey × OverlaySettings × Std.ExtTreeMap UInt8 Handler) × Address

def Overlay.footing (overlay : Overlay) : Footing := (overlay.reader, overlay.lan)

/-- The overlays that were loaded, and who works with them. -/
@[ext]
structure Household where
  slots : List Footing
  overlays : List Nat
  walkers : List (Nat × WalkSettings)

structure Charter where
  settings : NodeSettings
  key : PrivateKey
  bound : SocketAddress

/-- What a node is, but for what it knows and what it has to say. -/
@[ext]
structure Standing where
  charter : Charter
  isRunning : Bool
  hasEndpoint : Bool
  household : Household

def Walker.standing (walker : Walker) : Nat × WalkSettings := (walker.slot, walker.walk.settings)

namespace Node

def household (node : Node) : Household where
  slots := node.slots.map (·.footing)
  overlays := node.overlays
  walkers := node.walkers.map (·.standing)

def charter (node : Node) : Charter := ⟨node.settings, node.key, node.bound⟩

def standing (node : Node) : Standing where
  charter := node.charter
  isRunning := node.isRunning
  hasEndpoint := node.hasEndpoint
  household := node.household

end Node

namespace Activity

def footing (activity : Activity) : Footing := activity.overlay.footing

theorem footing_receive (activity : Activity) (packet : Packet) (pick : Nat) :
    (activity.receive packet pick).footing = activity.footing :=
  Prod.ext (activity.reader_receive packet pick) (activity.learns_receive packet pick).lan

theorem keptByInitiatives_footing (start : Activity) :
    KeptByInitiatives fun activity => activity.footing = start.footing where
  walkTo _ _ before := before
  noteBootstrap _ before := before
  forgetAddress _ _ before _ := before

theorem footing_takeInitiative (activity : Activity) (initiative : Initiative) :
    (activity.takeInitiative initiative).footing = activity.footing :=
  (keptByInitiatives_footing activity).takeInitiative rfl initiative

theorem footing_adoptLan (activity : Activity) (lan : Address) :
    (activity.adoptLan lan).footing = (activity.footing.1, lan) := by
  unfold adoptLan
  split
  · rename_i already
    exact Prod.ext rfl already
  · rfl

end Activity

namespace RandomWalk

@[simp]
theorem settings_start (settings : WalkSettings) : (start settings).settings = settings := rfl

theorem settings_advance (walk : RandomWalk) (activity : Activity) (draw : Draw) (pick : Nat) :
    (walk.advance activity draw pick).1.settings = walk.settings := by
  unfold advance
  dsimp only
  split <;> rfl

theorem settings_step (walk : RandomWalk) (activity : Activity) (draw : Draw) (pick : Nat) :
    (walk.step activity draw pick).1.settings = walk.settings := by
  unfold step
  dsimp only
  split
  · rfl
  · split
    · rfl
    · exact settings_advance _ _ draw pick

end RandomWalk

namespace Node

variable {node : Node} {moment : Moment} {work : Activity → Activity} {become : Footing → Footing}

theorem employ_of_getElem? {slot : Nat} {overlay : Overlay}
    (housed : node.slots[slot]? = some overlay) (moment : Moment) (work : Activity → Activity) :
    node.employ moment work slot =
      node.absorb slot (work (.start overlay node.known moment)) := by
  unfold employ
  rw [housed]

theorem standing_absorb (node : Node) (slot : Nat) (activity : Activity) :
    (node.absorb slot activity).standing =
      { node.standing with
        household := { node.household with
          slots := node.household.slots.set slot activity.footing } } := by
  refine Standing.ext rfl rfl rfl (Household.ext ?_ rfl rfl)
  exact List.map_set

/-- An overlay that stands on its footing after it was at work leaves the node standing. -/
theorem standing_absorb_of_steady {slot : Nat} {overlay : Overlay} {activity : Activity}
    (housed : node.slots[slot]? = some overlay) (steady : activity.footing = overlay.footing) :
    (node.absorb slot activity).standing = node.standing := by
  have stood : node.household.slots[slot]? = some activity.footing := by
    simp [household, housed, steady]
  obtain ⟨inside, here⟩ := List.getElem?_eq_some_iff.1 stood
  rw [standing_absorb, ← here, List.set_getElem_self]
  rfl

/-- Work by which an overlay gets its footing by a rule, whatever the node knows. -/
def Settles (work : Activity → Activity) (moment : Moment) (become : Footing → Footing) : Prop :=
  ∀ (overlay : Overlay) (known : Neighbourhood),
    (work (.start overlay known moment)).footing = become overlay.footing

theorem standing_employ (settles : Settles work moment become) (node : Node) (slot : Nat) :
    (node.employ moment work slot).standing =
      { node.standing with
        household := { node.household with slots := node.household.slots.modify slot become } } := by
  unfold employ
  split
  · rename_i overlay housed
    have stood : node.household.slots[slot]? = some overlay.footing := by
      simp [household, housed]
    rw [standing_absorb, settles overlay node.known, List.modify_eq_set_getElem?, stood]
    rfl
  · rename_i vacant
    have beyond : node.household.slots.length ≤ slot := by
      simpa [household] using vacant
    rw [List.modify_eq_self beyond]
    rfl

theorem standing_employ_of_steady (settles : Settles work moment id) (node : Node) (slot : Nat) :
    (node.employ moment work slot).standing = node.standing := by
  rw [standing_employ settles, List.modify_id]
  rfl

theorem standing_perform (settles : Settles work moment become) (node : Node)
    (slots : List Nat) :
    (node.perform moment work slots).standing =
      { node.standing with
        household := { node.household with
          slots := slots.foldl (fun footings slot => footings.modify slot become)
            node.household.slots } } := by
  induction slots generalizing node with
  | nil => rfl
  | cons slot others ih =>
      have employed := standing_employ settles node slot
      change ((node.employ moment work slot).perform moment work others).standing = _
      have household : (node.employ moment work slot).household = _ :=
        congrArg Standing.household employed
      rw [ih, employed, household]
      rfl

theorem standing_perform_of_steady (settles : Settles work moment id) (node : Node)
    (slots : List Nat) : (node.perform moment work slots).standing = node.standing := by
  induction slots generalizing node with
  | nil => rfl
  | cons slot others ih => exact (ih _).trans (standing_employ_of_steady settles node slot)

theorem standing_dispatch (node : Node) (moment : Moment) (packet : Packet) (pick : Nat) :
    (node.dispatch moment packet pick).standing = node.standing :=
  standing_perform_of_steady (fun _ _ => Activity.footing_receive _ packet pick) node node.overlays

/-- A step of a walker leaves the node standing, and the walker as it is configured. -/
theorem stepWalker_keeps (node : Node) (moment : Moment) (draw : Draw) (pick : Nat)
    (walker : Walker) :
    (node.stepWalker moment draw pick walker).1.standing = walker.standing ∧
      (node.stepWalker moment draw pick walker).2.standing = node.standing := by
  unfold stepWalker
  split
  · rename_i overlay housed
    have stepped := (Activity.start overlay node.known moment).footing_takeInitiative
      (.step walker.walk draw pick)
    exact ⟨congrArg (walker.slot, ·) (walker.walk.settings_step _ draw pick),
      standing_absorb_of_steady housed stepped⟩
  · exact ⟨rfl, rfl⟩

theorem stepWalkers_keeps (node : Node) (moment : Moment) (draw : Draw) (pick : Nat)
    (walkers : List Walker) :
    (node.stepWalkers moment draw pick walkers).1.map (·.standing) = walkers.map (·.standing) ∧
      (node.stepWalkers moment draw pick walkers).2.standing = node.standing := by
  induction walkers generalizing node with
  | nil => exact ⟨rfl, rfl⟩
  | cons walker others ih =>
      obtain ⟨configured, standing⟩ := node.stepWalker_keeps moment draw pick walker
      obtain ⟨rest, last⟩ := ih (node.stepWalker moment draw pick walker).2
      exact ⟨congrArg₂ List.cons configured rest, last.trans standing⟩

theorem standing_tick (node : Node) (moment : Moment) (draw : Draw) (pick : Nat) :
    (node.tick moment draw pick).standing = node.standing := by
  unfold tick
  split
  · obtain ⟨configured, last⟩ := node.stepWalkers_keeps moment draw pick node.walkers
    obtain ⟨charter, isRunning, hasEndpoint, household⟩ := Standing.ext_iff.1 last
    obtain ⟨slots, overlays, -⟩ := Household.ext_iff.1 household
    exact Standing.ext charter isRunning hasEndpoint
      (Household.ext slots overlays configured)
  · rfl

theorem settles_adoptLan (moment : Moment) (lan : Address) :
    Settles (fun activity => activity.adoptLan lan) moment fun footing => (footing.1, lan) :=
  fun _ _ => Activity.footing_adoptLan _ lan

end Node

/-- The household once the footing of every running overlay was moved by a rule. -/
def Household.moved (household : Household) (become : Footing → Footing) : Household :=
  { household with
    slots := household.overlays.foldl (fun footings slot => footings.modify slot become)
      household.slots }

theorem Household.moved_id (household : Household) : household.moved id = household := by
  have idle : ∀ slots : List Nat, slots.foldl (fun footings slot => footings.modify slot id)
      household.slots = household.slots := by
    intro slots
    induction slots with
    | nil => rfl
    | cons slot others ih => rw [List.foldl_cons, List.modify_id, ih]
  exact Household.ext (idle household.overlays) rfl rfl

/-- The footing of an overlay that has estimated its LAN address from the bound address. -/
def Footing.estimated (bound : SocketAddress) (footing : Footing) : Footing :=
  (footing.1, bound.localAddress?.getD footing.2)

theorem Node.standing_estimateLan (node : Node) (moment : Moment) :
    (node.estimateLan moment).standing =
      { node.standing with household := node.household.moved (Footing.estimated node.bound) } := by
  unfold estimateLan
  split
  · rename_i lan found
    have rule : Footing.estimated node.bound = fun footing => (footing.1, lan) := by
      funext footing
      simp [Footing.estimated, found]
    rw [standing_perform (settles_adoptLan moment lan), rule]
    rfl
  · rename_i nowhere
    have rule : Footing.estimated node.bound = id := by
      funext footing
      simp [Footing.estimated, nowhere]
    rw [rule, Household.moved_id]
    rfl

end PeerDiscovery
