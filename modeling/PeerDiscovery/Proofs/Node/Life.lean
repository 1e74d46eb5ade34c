import PeerDiscovery.Proofs.Node.Household
import PeerDiscovery.Proofs.Overlay.Registration

/-!
# The calls that make up a node's life

A node that runs the overlays of some plans follows these plans, with the LAN address that its
bound address allows.  From there every call either succeeds, and the node follows the plans
that are then in force, or it fails for the one reason that applies, and leaves the node as it
was: what it had changed until then it takes back.
-/

namespace PeerDiscovery

namespace OverlayPlan

def makeup (plan : OverlayPlan) (key : PrivateKey) : Makeup :=
  ⟨(plan.build key).reader, plan.walks⟩

theorem service_makeup (plan : OverlayPlan) (key : PrivateKey) :
    (plan.makeup key).service = plan.service :=
  congrArg Overlay.service (plan.build_eq key)

theorem footing_build (plan : OverlayPlan) (key : PrivateKey) :
    (plan.build key).footing = ((plan.makeup key).reader, .empty) :=
  congrArg (_, ·) (congrArg Overlay.lan (plan.build_eq key))

end OverlayPlan

/-- Plans that a node can start with: they have no fault, and no two have one service. -/
structure OverlayPlan.Sound (plans : List OverlayPlan) : Prop where
  valid : ∀ plan ∈ plans, plan.validate = .ok ()
  apart : (plans.map (·.service)).Nodup

namespace NodeSettings

theorem sound_of_validateOverlays {earlier : List ServiceId} {plans : List OverlayPlan}
    (validated : validateOverlays earlier plans = .ok ()) :
    OverlayPlan.Sound plans ∧ ∀ plan ∈ plans, plan.service ∉ earlier := by
  induction plans generalizing earlier with
  | nil => exact ⟨⟨by simp, by simp⟩, by simp⟩
  | cons plan others ih =>
      obtain ⟨⟨⟩, valid, rest⟩ := bind_eq_ok_iff.1 validated
      split at rest
      · cases rest
      · rename_i new
        obtain ⟨sound, apart⟩ := ih rest
        have elsewhere : plan.service ∉ others.map (·.service) := by
          intro again
          obtain ⟨other, listed, same⟩ := List.mem_map.1 again
          exact apart other listed (same ▸ List.mem_cons_self)
        refine ⟨⟨?_, List.nodup_cons.2 ⟨elsewhere, sound.apart⟩⟩, ?_⟩
        · exact List.forall_mem_cons.2 ⟨valid, sound.valid⟩
        · refine List.forall_mem_cons.2 ⟨by simpa using new, fun other listed known => ?_⟩
          exact apart other listed (List.mem_cons_of_mem _ known)

theorem sound_of_validate {settings : NodeSettings} (validated : settings.validate = .ok ()) :
    OverlayPlan.Sound settings.overlays := by
  unfold validate at validated
  split at validated
  · cases validated
  · split at validated
    · cases validated
    · exact (sound_of_validateOverlays validated).1

end NodeSettings

/-- The LAN address that the overlays of a node take, or the empty one. -/
def SocketAddress.home (bound : SocketAddress) : Address := bound.localAddress?.getD .empty

theorem SocketAddress.home_again (bound : SocketAddress) :
    bound.localAddress?.getD bound.home = bound.home := by
  unfold home
  cases bound.localAddress? <;> rfl

/-- How the overlay of a plan lives in a node, once it has estimated its LAN address. -/
def Charter.guest (charter : Charter) (plan : OverlayPlan) : Guest :=
  (plan.makeup charter.key, charter.bound.home)

theorem Charter.map_service_guest (charter : Charter) (plans : List OverlayPlan) :
    (plans.map charter.guest).map (·.1.service) = plans.map (·.service) := by
  rw [List.map_map]
  exact List.map_congr_left fun plan _ => plan.service_makeup charter.key

theorem Charter.estimated_comp_guest (charter : Charter) :
    Guest.estimated charter.bound ∘ charter.guest = charter.guest :=
  funext fun _ => Prod.ext rfl charter.bound.home_again

/-- A node that runs the overlays of some plans, or does not run. -/
structure Standing.Follows (standing : Standing) (charter : Charter)
    (plans : Option (List OverlayPlan)) : Prop where
  chartered : standing.charter = charter
  isRunning : standing.isRunning = plans.isSome
  hasEndpoint : standing.hasEndpoint = plans.isSome
  hosts : standing.household.Hosts ((plans.getD []).map charter.guest)

namespace Node

variable {node : Node} {moment : Moment} {plan : OverlayPlan} {guests : List Guest}

theorem service?_eq (node : Node) (slot : Nat) :
    node.service? slot = (node.household.guest? slot).map (·.1.service) := by
  simp only [service?, household, Household.guest?, List.getElem?_map, Option.map_map]
  rfl

theorem services_eq (hosts : node.household.Hosts guests) :
    node.services = guests.map (·.1.service) := by
  have services : node.services =
      (node.household.overlays.map node.household.guest?).filterMap
        (Option.map fun guest => guest.1.service) := by
    rw [List.filterMap_map]
    exact List.filterMap_congr fun slot _ => node.service?_eq slot
  rw [services, hosts.guests, List.filterMap_map, ← List.filterMap_eq_map]
  rfl

theorem slotOf?_eq_none_iff {service : ServiceId} :
    node.slotOf? service = none ↔ service ∉ node.services := by
  unfold slotOf? services
  simp

theorem loadOverlay_of_mem (running : plan.service ∈ node.services) :
    node.loadOverlay moment plan = (.error (.duplicateOverlay plan.service), node) := by
  unfold loadOverlay
  rw [if_pos (by simpa using running)]

theorem loadOverlay_of_fault {cause : NodeError} (new : plan.service ∉ node.services)
    (fault : plan.validate = .error cause) :
    node.loadOverlay moment plan = (.error cause, node) := by
  unfold loadOverlay
  rw [if_neg (by simpa using new), fault]

theorem loadOverlay_of_valid (connected : node.hasEndpoint = true)
    (new : plan.service ∉ node.services) (valid : plan.validate = .ok ()) :
    node.loadOverlay moment plan = (.ok (), node.install moment plan) := by
  unfold loadOverlay
  rw [if_neg (by simpa using new), valid]
  exact if_pos connected

/-- An overlay that has moved in is loaded, and loading it changes only what the node knows and
tells. -/
theorem install_eq (node : Node) (moment : Moment) (plan : OverlayPlan) :
    node.install moment plan =
      let activity := (Activity.start (plan.build node.key) node.known moment).load
      { node with
        slots := node.slots ++ [plan.build node.key]
        overlays := node.overlays ++ [node.slots.length]
        walkers := node.walkers ++ plan.walks.map fun settings =>
          ⟨node.slots.length, .start settings⟩
        known := activity.known
        outbox := node.outbox ++ activity.sent
        notices := node.notices ++ plan.notices ++ activity.notices
        deliveries := node.deliveries ++ activity.deliveries } := by
  have there : (node.house plan).slots[node.slots.length]? = some (plan.build node.key) :=
    List.getElem?_concat_length
  have unmoved : (node.slots ++ [plan.build node.key]).set node.slots.length
      (plan.build node.key) = node.slots ++ [plan.build node.key] := by simp
  unfold install
  dsimp only
  rw [employ_of_getElem? there]
  unfold absorb house Activity.load
  dsimp only [Activity.onRegistry, Activity.tell, Activity.start]
  rw [unmoved]

theorem standing_install (node : Node) (moment : Moment) (plan : OverlayPlan) :
    (node.install moment plan).standing =
      { node.standing with
        household := node.household.installed (plan.build node.key).footing plan.walks } := by
  have length : node.household.slots.length = node.slots.length := List.length_map _
  rw [install_eq]
  refine Standing.ext rfl rfl rfl (Household.ext List.map_append ?_ ?_)
  · exact congrArg (node.overlays ++ [·]) length.symm
  · refine List.map_append.trans (congrArg (node.household.walkers ++ ·) ?_)
    rw [List.map_map, length]
    rfl

theorem hosts_install (hosts : node.household.Hosts guests) (moment : Moment)
    (plan : OverlayPlan) :
    (node.install moment plan).household.Hosts (guests ++ [(plan.makeup node.key, .empty)]) := by
  have installed := hosts.installed (plan.build node.key).footing plan.walks
  rw [plan.footing_build] at installed
  have same := congrArg Standing.household (node.standing_install moment plan)
  change (node.install moment plan).household = _ at same
  rw [same, plan.footing_build]
  exact installed

/-- Sound plans are loaded one after the other, if all of their services are new. -/
theorem loadOverlays_eq_ok (moment : Moment) {plans : List OverlayPlan}
    (sound : OverlayPlan.Sound plans) (connected : node.hasEndpoint = true)
    (hosts : node.household.Hosts guests) (new : ∀ plan ∈ plans, plan.service ∉ node.services) :
    ∃ loaded, node.loadOverlays moment plans = (.ok (), loaded) ∧
      loaded.standing = { node.standing with household := loaded.household } ∧
      loaded.household.Hosts
        (guests ++ plans.map fun plan => (plan.makeup node.key, .empty)) := by
  induction plans generalizing node guests with
  | nil => exact ⟨node, rfl, rfl, by simpa using hosts⟩
  | cons plan others ih =>
      obtain ⟨newPlan, newOthers⟩ := List.forall_mem_cons.1 new
      obtain ⟨validPlan, validOthers⟩ := List.forall_mem_cons.1 sound.valid
      obtain ⟨notAgain, apart⟩ := List.nodup_cons.1 sound.apart
      have installed := node.hosts_install hosts moment plan
      obtain ⟨charter, isRunning, hasEndpoint, -⟩ :=
        Standing.ext_iff.1 (node.standing_install moment plan)
      -- what was just loaded is not asked for again
      have stillNew : ∀ other ∈ others, other.service ∉ (node.install moment plan).services := by
        intro other listed
        rw [services_eq installed, List.map_append, ← services_eq hosts, List.mem_append,
          List.map_singleton, List.mem_singleton, plan.service_makeup, not_or]
        exact ⟨newOthers other listed,
          fun same => notAgain (List.mem_map.2 ⟨other, listed, same⟩)⟩
      obtain ⟨loaded, loadOthers, last, hostsLast⟩ :=
        ih ⟨validOthers, apart⟩ (hasEndpoint.trans connected) installed stillNew
      refine ⟨loaded, ?_, ?_, ?_⟩
      · unfold loadOverlays
        rw [loadOverlay_of_valid connected newPlan validPlan]
        exact loadOthers
      · rw [last]
        exact Standing.ext charter isRunning hasEndpoint rfl
      · rw [show (node.install moment plan).key = node.key from congrArg Charter.key charter,
          List.append_assoc] at hostsLast
        exact hostsLast

variable {charter : Charter} {plans : Option (List OverlayPlan)}

theorem services_of_follows (follows : node.standing.Follows charter plans) :
    node.services = (plans.getD []).map (·.service) := by
  rw [services_eq follows.hosts, charter.map_service_guest]

/-- Another estimate of the LAN address comes to the same. -/
theorem follows_estimateLan (follows : node.standing.Follows charter plans) (moment : Moment) :
    (node.estimateLan moment).standing.Follows charter plans := by
  have estimated := follows.hosts.estimated charter.bound
  rw [List.map_map, charter.estimated_comp_guest] at estimated
  rw [standing_estimateLan, show node.bound = charter.bound from
    congrArg Charter.bound follows.chartered]
  exact ⟨follows.chartered, follows.isRunning, follows.hasEndpoint, estimated⟩

/-- Overlays that have just been loaded behind others are like them once they have estimated
their LAN address. -/
theorem follows_of_loaded (earlier later : List OverlayPlan) (moment : Moment)
    (chartered : node.charter = charter) (running : node.isRunning = true)
    (connected : node.hasEndpoint = true)
    (hosts : node.household.Hosts
      (earlier.map charter.guest ++ later.map fun plan => (plan.makeup charter.key, .empty))) :
    (node.estimateLan moment).standing.Follows charter (some (earlier ++ later)) := by
  have estimated := hosts.estimated charter.bound
  rw [List.map_append, List.map_map, List.map_map, charter.estimated_comp_guest] at estimated
  rw [standing_estimateLan, show node.bound = charter.bound from congrArg Charter.bound chartered]
  refine ⟨chartered, running, connected, ?_⟩
  rw [Option.getD_some, List.map_append]
  exact estimated

theorem setRunning_of_eq {isRunning : Bool} (already : node.isRunning = isRunning) :
    node.setRunning isRunning = node := by
  unfold setRunning
  rw [← already]

theorem start_of_running (running : node.isRunning = true) :
    node.start moment = (.error .alreadyStarted, node) := by
  unfold start
  rw [if_pos running]

/-- A node whose transport is closed takes back that it runs. -/
theorem start_of_closed (idle : node.isRunning = false) (closed : moment.isOpen = false) :
    node.start moment = (.error (.transport .closed), node) := by
  have takenBack : (node.setRunning true).setRunning false = node := setRunning_of_eq idle
  unfold start
  rw [if_neg (by simp [idle]), closed]
  exact congrArg (_, ·) takenBack

theorem charter_loadOverlay (node : Node) (moment : Moment) (plan : OverlayPlan) :
    (node.loadOverlay moment plan).2.charter = node.charter := by
  unfold loadOverlay
  split
  · rfl
  · split
    · rfl
    · split
      · exact congrArg Standing.charter (node.standing_install moment plan)
      · rfl

theorem charter_loadOverlays (node : Node) (moment : Moment) (plans : List OverlayPlan) :
    (node.loadOverlays moment plans).2.charter = node.charter := by
  induction plans generalizing node with
  | nil => rfl
  | cons plan others ih =>
      have first := node.charter_loadOverlay moment plan
      unfold loadOverlays
      split
      · rename_i loaded loads
        rw [loads] at first
        exact (ih loaded).trans first
      · exact first

/-- Whoever has dismissed and unloaded everybody does not run any plans. -/
theorem follows_unloadAll (node : Node) :
    (node.setRunning false).unloadAll.standing.Follows node.charter none :=
  ⟨rfl, rfl, rfl, Household.hosts_nil_iff.2 ⟨rfl, rfl⟩⟩

/-- Whichever overlay cannot be loaded, and whatever the settings are, a node that fails to start
runs as little as before: what was loaded until then is unloaded. -/
theorem start_of_failed_load {cause : NodeError} (idle : node.isRunning = false)
    (isOpen : moment.isOpen = true)
    (fails : ((node.setRunning true).connect.loadOverlays moment node.settings.overlays).1 =
      .error cause) :
    ∃ left, node.start moment = (.error cause, left) ∧
      left.standing.Follows node.charter none := by
  let connected : Node := (node.setRunning true).connect
  have chartered := connected.charter_loadOverlays moment node.settings.overlays
  have loads : connected.loadOverlays moment node.settings.overlays =
      (.error cause, (connected.loadOverlays moment node.settings.overlays).2) :=
    Prod.ext fails rfl
  have started : node.start moment = (.error cause,
      ((connected.loadOverlays moment node.settings.overlays).2.setRunning false).unloadAll) := by
    unfold start
    rw [if_neg (by simp [idle]), if_pos isOpen]
    dsimp only
    rw [show (node.setRunning true).settings = node.settings from rfl, loads]
  refine ⟨_, started, ?_⟩
  rw [show node.charter = connected.charter from rfl, ← chartered]
  exact follows_unloadAll _

/-- A node whose settings have no fault starts with the overlays of its settings. -/
theorem start_eq_ok (follows : node.standing.Follows charter none)
    (validated : charter.settings.validate = .ok ()) (isOpen : moment.isOpen = true) :
    ∃ started, node.start moment = (.ok (), started) ∧
      started.standing.Follows charter (some charter.settings.overlays) := by
  have idle : node.isRunning = false := follows.isRunning
  have configured : node.settings = charter.settings := congrArg Charter.settings follows.chartered
  let connected : Node := (node.setRunning true).connect
  have hosts : connected.household.Hosts [] := follows.hosts
  have new : ∀ plan ∈ charter.settings.overlays, plan.service ∉ connected.services := by
    intro plan _
    rw [services_eq hosts]
    exact List.not_mem_nil
  obtain ⟨loaded, loads, last, hostsLast⟩ := loadOverlays_eq_ok moment
    (NodeSettings.sound_of_validate validated) rfl hosts new
  obtain ⟨same, running, hasEndpoint, -⟩ := Standing.ext_iff.1 last
  have chartered : loaded.charter = charter := same.trans follows.chartered
  rw [show connected.key = charter.key from congrArg Charter.key follows.chartered] at hostsLast
  unfold start
  rw [if_neg (by simp [idle]), if_pos isOpen]
  dsimp only
  rw [show (node.setRunning true).settings = charter.settings from configured, loads]
  exact ⟨_, rfl, follows_of_loaded [] _ moment chartered running hasEndpoint hostsLast⟩

theorem stop_of_idle (idle : node.isRunning = false) : node.stop = (.error .notRunning, node) := by
  simp [stop, idle]

theorem stop_eq_ok (running : node.isRunning = true)
    (follows : node.standing.Follows charter plans) :
    ∃ stopped, node.stop = (.ok (), stopped) ∧ stopped.standing.Follows charter none := by
  unfold stop
  rw [if_pos running]
  refine ⟨_, rfl, ?_⟩
  rw [← follows.chartered]
  exact node.follows_unloadAll

theorem addOverlay_of_idle (idle : node.isRunning = false) :
    node.addOverlay moment plan = (.error .notRunning, node) := by
  simp [addOverlay, idle]

theorem addOverlay_of_mem (running : node.isRunning = true)
    (mem : plan.service ∈ node.services) :
    node.addOverlay moment plan = (.error (.duplicateOverlay plan.service), node) := by
  simp [addOverlay, running, loadOverlay_of_mem mem]

theorem addOverlay_of_fault {cause : NodeError} (running : node.isRunning = true)
    (new : plan.service ∉ node.services) (fault : plan.validate = .error cause) :
    node.addOverlay moment plan = (.error cause, node) := by
  simp [addOverlay, running, loadOverlay_of_fault new fault]

/-- A running node has the endpoint that an overlay needs, so a plan with a new service and
without fault is added. -/
theorem addOverlay_of_valid (running : node.isRunning = true) (connected : node.hasEndpoint = true)
    (new : plan.service ∉ node.services) (valid : plan.validate = .ok ()) :
    node.addOverlay moment plan = (.ok (), (node.install moment plan).estimateLan moment) := by
  unfold addOverlay
  rw [if_pos running, loadOverlay_of_valid connected new valid]

theorem follows_addOverlay {running : List OverlayPlan}
    (follows : node.standing.Follows charter (some running)) (moment : Moment)
    (plan : OverlayPlan) :
    ((node.install moment plan).estimateLan moment).standing.Follows charter
      (some (running ++ [plan])) := by
  have installed := node.hosts_install follows.hosts moment plan
  obtain ⟨same, isRunning, hasEndpoint, -⟩ :=
    Standing.ext_iff.1 (node.standing_install moment plan)
  rw [show node.key = charter.key from congrArg Charter.key follows.chartered] at installed
  exact follows_of_loaded running [plan] moment (same.trans follows.chartered)
    (isRunning.trans follows.isRunning) (hasEndpoint.trans follows.hasEndpoint) installed

theorem removeOverlay_of_notMem {service : ServiceId} (unknown : service ∉ node.services) :
    node.removeOverlay service = (.error (.unknownOverlay service), node) := by
  unfold removeOverlay
  rw [slotOf?_eq_none_iff.2 unknown]

theorem household_dismiss (node : Node) (slot : Nat) :
    (node.dismiss slot).household = node.household.without slot := by
  refine Household.ext rfl rfl ?_
  simp [household, dismiss, Household.without, List.filter_map, Walker.standing, Function.comp_def]

/-- The overlay of the service is removed with its walkers, and all others stay. -/
theorem removeOverlay_eq_ok {service : ServiceId} (follows : node.standing.Follows charter plans)
    (apart : ((plans.getD []).map (·.service)).Nodup) (mem : service ∈ node.services) :
    ∃ removed, node.removeOverlay service = (.ok (), removed) ∧
      removed.standing.Follows charter
        (plans.map (·.filter fun plan => plan.service != service)) := by
  obtain ⟨slot, found⟩ := Option.ne_none_iff_exists'.1 (mt slotOf?_eq_none_iff.1 (not_not.2 mem))
  have runs : slot ∈ node.overlays := List.mem_of_find?_eq_some found
  obtain ⟨guest, among, lives⟩ := follows.hosts.exists_guest runs
  have served : guest.1.service = service := by
    have matched := List.find?_some found
    rw [beq_iff_eq, service?_eq] at matched
    change (node.standing.household.guest? slot).map _ = _ at matched
    rw [lives] at matched
    exact Option.some.inj matched
  rw [← charter.map_service_guest] at apart
  have without := follows.hosts.without apart runs lives
  unfold removeOverlay
  rw [found]
  refine ⟨_, rfl, follows.chartered, ?_, ?_, ?_⟩
  · rw [Option.isSome_map]
    exact follows.isRunning
  · rw [Option.isSome_map]
    exact follows.hasEndpoint
  · have same : (plans.map (·.filter fun plan => plan.service != service)).getD [] =
        (plans.getD []).filter fun plan => plan.service != service := by
      cases plans <;> rfl
    have planned : ((plans.getD []).map charter.guest).filter
        (fun other => other.1.service != guest.1.service) =
          ((plans.getD []).filter fun plan => plan.service != service).map charter.guest := by
      rw [List.filter_map, served]
      refine congrArg _ (List.filter_congr fun plan _ => ?_)
      exact congrArg (· != service) (plan.service_makeup charter.key)
    rw [same, ← planned]
    change (node.dismiss slot).household.Hosts _
    rw [household_dismiss]
    exact without

end Node

def Node.walksOf (node : Node) (slot : Nat) : List WalkSettings :=
  (node.walkers.filter fun walker => walker.slot == slot).map (·.walk.settings)

/-- How the overlay in a slot is configured, and the walks that there are for it. -/
def Node.makeup? (node : Node) (slot : Nat) : Option Makeup :=
  node.slots[slot]?.map fun overlay => ⟨overlay.reader, node.walksOf slot⟩

/-- A node runs the overlays of some plans in order, each in a slot of its own and with just the
walkers that are planned for it, and there are no other walkers; or it does not run, and then
there is nothing of the kind. -/
structure Node.Fulfils (node : Node) (key : PrivateKey) (plans : Option (List OverlayPlan)) :
    Prop where
  running : node.isRunning = plans.isSome
  idle : node.isRunning = false →
    node.overlays = [] ∧ node.walkers = [] ∧ node.hasEndpoint = false
  apart : node.services.Nodup
  identified : node.overlays.Nodup
  planned : node.overlays.map node.makeup? =
    (plans.getD []).map fun plan => some (plan.makeup key)
  owned : ∀ walker ∈ node.walkers, walker.slot ∈ node.overlays

namespace Node

variable {node : Node} {charter : Charter} {plans : Option (List OverlayPlan)}

theorem makeup?_eq (node : Node) (slot : Nat) :
    node.makeup? slot = (node.household.guest? slot).map (·.1) := by
  have walks : node.household.walksOf slot = node.walksOf slot := by
    simp [Household.walksOf, walksOf, household, Walker.standing, List.filter_map,
      Function.comp_def]
  unfold makeup? Household.guest?
  rw [walks, household, List.getElem?_map, Option.map_map, Option.map_map]
  rfl

theorem fulfils (follows : node.standing.Follows charter plans)
    (apart : ((plans.getD []).map (·.service)).Nodup) : node.Fulfils charter.key plans where
  running := follows.isRunning
  idle := by
    intro idle
    have runs : node.isRunning = plans.isSome := follows.isRunning
    obtain rfl : plans = none := by simpa [idle] using runs.symm
    obtain ⟨nobody, noWalker⟩ := Household.hosts_nil_iff.1 follows.hosts
    exact ⟨nobody, List.map_eq_nil_iff.1 noWalker, follows.hasEndpoint⟩
  apart := services_of_follows follows ▸ apart
  identified := follows.hosts.apart
  planned := by
    have guests := congrArg (List.map (Option.map Prod.fst)) follows.hosts.guests
    rw [List.map_map, List.map_map, List.map_map] at guests
    exact (List.map_congr_left fun slot _ => node.makeup?_eq slot).trans guests
  owned := fun walker listed => follows.hosts.owned walker.standing (List.mem_map_of_mem listed)

end Node

end PeerDiscovery
