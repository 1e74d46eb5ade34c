import PeerDiscovery.Proofs.Network.Walkability
import PeerDiscovery.Proofs.Node.Lifecycle

/-!
# Adding an overlay voids the reports

The overlays of a node share the log of WAN addresses, and an overlay that adopts another
estimate of the LAN address empties it.  An overlay that is added while the node runs starts
without an estimate, so it empties the log when it adopts the one that all others have, although
the node's LAN address is what it was.
-/

namespace PeerDiscovery

theorem SocketAddress.localAddress?_v4 {address : Address} (concrete : address.ip ≠ .unspecified)
    (outside : address.isLoopback = false) :
    (SocketAddress.v4 address).localAddress? = some address := by
  simp [localAddress?, concrete, outside]

namespace Node

variable {node : Node} {moment : Moment} {plan : OverlayPlan} {lan : Address}

/-- The overlay of a plan once it has estimated its LAN address. -/
def settledOverlay (node : Node) (plan : OverlayPlan) (lan : Address) : Overlay :=
  { plan.build node.key with lan }

/-- What adding the overlay of a plan makes of a node that is bound to a concrete address.  The
overlays and the walkers that were there are as they were. -/
structure Forgets (address : Address) (plan : OverlayPlan) (before after : Node) : Prop where
  lan : ∀ overlay ∈ before.running, overlay.lan = address
  slots : after.slots = before.slots ++ [before.settledOverlay plan address]
  overlays : after.overlays = before.overlays ++ [before.slots.length]
  running : after.running = before.running ++ [before.settledOverlay plan address]
  walkers : after.walkers =
    before.walkers ++ plan.walks.map fun settings => ⟨before.slots.length, .start settings⟩
  wanLog : after.known.wanLog = .empty
  wan : after.known.wan = .empty
  connection : after.known.wanLog.connection = .unknown
  same_iff : after.known.wanLog = before.known.wanLog ↔ before.known.wanLog = .empty

theorem idle_adoptLan {slot : Nat} {overlay : Overlay} (housed : node.slots[slot]? = some overlay)
    (same : overlay.lan = lan) :
    node.Idle moment (fun activity => activity.adoptLan lan) slot := by
  intro overlay' housed' known
  obtain rfl : overlay = overlay' := Option.some.inj (housed.symm.trans housed')
  have already : (Activity.start overlay known moment).lan = lan := same
  simp [Activity.adoptLan, already]

/-- The first estimate of an overlay that has just been loaded voids all reports. -/
theorem adoptLan_build (plan : OverlayPlan) (key : PrivateKey) (known : Neighbourhood)
    (moment : Moment) (nonempty : lan ≠ .empty) :
    (Activity.start (plan.build key) known moment).adoptLan lan =
      .start { plan.build key with lan } { known with wanLog := .empty } moment := by
  have unknown : (Activity.start (plan.build key) known moment).lan = .empty :=
    congrArg Overlay.lan (plan.build_eq key)
  unfold Activity.adoptLan
  rw [unknown, if_neg nonempty.symm]
  rfl

/-- Of all overlays only the one that was just loaded has another LAN address to adopt. -/
theorem estimateLan_install (moment : Moment) (bound : node.bound.localAddress? = some lan)
    (nonempty : lan ≠ .empty) (apart : node.overlays.Nodup)
    (inside : ∀ slot ∈ node.overlays, slot < node.slots.length)
    (estimated : ∀ overlay ∈ node.running, overlay.lan = lan) (plan : OverlayPlan) :
    (node.install moment plan).estimateLan moment =
      (node.install moment plan).absorb node.slots.length
        (.start (node.settledOverlay plan lan)
          { (node.install moment plan).known with wanLog := .empty } moment) := by
  have slots := congrArg Node.slots (node.install_eq moment plan)
  have overlays := congrArg Node.overlays (node.install_eq moment plan)
  have boundThen := congrArg Node.bound (node.install_eq moment plan)
  dsimp only at slots overlays boundThen
  have there : (node.install moment plan).slots[node.slots.length]? = some (plan.build node.key) := by
    rw [slots]
    exact List.getElem?_concat_length
  have fresh : node.slots.length ∉ node.overlays :=
    fun runs => Nat.lt_irrefl _ (inside _ runs)
  have apartThen : (node.install moment plan).overlays.Nodup := by
    rw [overlays]
    exact List.nodup_append_comm.1 (List.nodup_cons.2 ⟨fresh, apart⟩)
  have listed : node.slots.length ∈ (node.install moment plan).overlays := by
    rw [overlays]
    exact List.mem_append_right _ (List.mem_singleton_self _)
  unfold estimateLan
  rw [boundThen, bound]
  dsimp only
  rw [perform_of_idle_ne apartThen listed, employ_of_getElem? there,
    adoptLan_build plan node.key _ moment nonempty]
  · rfl
  · intro other among differs
    rw [overlays] at among
    have runs : other ∈ node.overlays := by simpa [differs] using among
    obtain ⟨overlay, housed⟩ : ∃ overlay, node.slots[other]? = some overlay :=
      ⟨_, List.getElem?_eq_getElem (inside other runs)⟩
    refine idle_adoptLan ?_ (estimated overlay (List.mem_filterMap.2 ⟨other, runs, housed⟩))
    rw [slots, List.getElem?_append_left (inside other runs)]
    exact housed

/-- When all overlays have the LAN address of the node, and one more is added, then these
overlays are left as they are, but no report of a WAN address is left. -/
theorem forgets_install (moment : Moment) (bound : node.bound.localAddress? = some lan)
    (nonempty : lan ≠ .empty) (apart : node.overlays.Nodup)
    (inside : ∀ slot ∈ node.overlays, slot < node.slots.length)
    (estimated : ∀ overlay ∈ node.running, overlay.lan = lan) (plan : OverlayPlan) :
    node.Forgets lan plan ((node.install moment plan).estimateLan moment) := by
  have slots := congrArg Node.slots (node.install_eq moment plan)
  have overlays := congrArg Node.overlays (node.install_eq moment plan)
  have walkers := congrArg Node.walkers (node.install_eq moment plan)
  dsimp only at slots overlays walkers
  rw [estimateLan_install moment bound nonempty apart inside estimated plan]
  have settled : ((node.install moment plan).slots.set node.slots.length
      (node.settledOverlay plan lan)) = node.slots ++ [node.settledOverlay plan lan] := by
    simp [slots]
  exact
    { lan := estimated
      slots := settled
      overlays := overlays
      running := by
        change (node.install moment plan).overlays.filterMap (fun slot =>
          ((node.install moment plan).slots.set node.slots.length
            (node.settledOverlay plan lan))[slot]?) = _
        rw [settled, overlays, List.filterMap_append]
        refine congrArg₂ HAppend.hAppend (List.filterMap_congr fun slot runs => ?_) ?_
        · exact List.getElem?_append_left (inside slot runs)
        · simp
      walkers := walkers
      wanLog := rfl
      wan := rfl
      connection := rfl
      same_iff := eq_comm }

end Node

theorem Activity.wanLog_receive_response (activity : Activity) {packet : Packet}
    (carried : packet.Carries activity.service .introductionResponse)
    {signed : Signed IntroductionResponse}
    (opened : packet.openSigned IntroductionResponse.format activity.moment.now = .ok signed)
    (outside : signed.peer.address.IsOutside) (pick : Nat) :
    (activity.receive packet pick).known.wanLog ≠ .empty := by
  classical
  rw [receive_of_openSigned_response carried opened, takeResponse_eq, learnWan_eq, if_pos outside]
  intro void
  exact WanLog.reports_add_ne_nil _ _ (congrArg WanLog.reports void)

namespace Cluster

variable {charter : Charter} {address : Address} {index transport : Nat}
  {plans : Option (List OverlayPlan)} {cluster last next : Cluster} {node : Node}
  {plan : OverlayPlan} {now : Instant}

theorem members_collect {member : Member} (found : cluster.members[index]? = some member)
    (node : Node) : (cluster.collect index member node).members[index]? =
      some { member with node := { node with outbox := [], notices := [] } } := by
  obtain ⟨inside, -⟩ := List.getElem?_eq_some_iff.1 found
  exact List.getElem?_set_self inside

/-- Whenever an overlay can be added, all reports are void afterwards. -/
theorem Stands.forgets (validated : charter.settings.validate = .ok ())
    (home : charter.bound.localAddress? = some address) (nonempty : address ≠ .empty)
    (stands : Stands charter index transport plans cluster)
    (found : cluster.members[index]? = some ⟨node, transport⟩)
    (follows : node.standing.Follows charter plans)
    (added : (Call.addOverlay plan).answer index now cluster = (.ok (), next)) :
    ∃ after : Node, next.members[index]? = some ⟨after, transport⟩ ∧
      node.Forgets address plan after := by
  have granted := (Call.answer_eq_ok_iff validated stands found follows (.addOverlay plan) now).1
    (congrArg Prod.fst added)
  obtain ⟨running, new, valid⟩ := Node.grants_addOverlay_iff.1 granted
  have connected : node.hasEndpoint = true :=
    follows.hasEndpoint.trans (follows.isRunning.symm.trans running)
  have bound : node.bound.localAddress? = some address :=
    (congrArg (·.bound.localAddress?) follows.chartered).trans home
  have inside : ∀ slot ∈ node.overlays, slot < node.slots.length := by
    intro slot runs
    have fits := follows.hosts.lt_length runs
    exact (List.length_map _) ▸ fits
  have estimated : ∀ overlay ∈ node.running, overlay.lan = address := by
    intro overlay listed
    obtain ⟨slot, runs, housed⟩ := List.mem_filterMap.1 listed
    obtain ⟨guest, among, lives⟩ := follows.hosts.exists_guest runs
    obtain ⟨planned, -, rfl⟩ := List.mem_map.1 among
    have same : overlay.lan = charter.bound.home := by
      have stood : node.household.guest? slot =
          some (⟨overlay.reader, node.household.walksOf slot⟩, overlay.lan) := by
        simp [Household.guest?, Node.household, housed, Overlay.footing]
      exact congrArg Prod.snd (Option.some.inj (stood.symm.trans lives))
    rw [same, SocketAddress.home, home]
    rfl
  have forgets := Node.forgets_install (cluster.momentOf ⟨node, transport⟩ now) bound nonempty
    follows.hosts.apart inside estimated plan
  rw [Call.answer, attempt_of_ok found (Node.addOverlay_of_valid running connected new valid)]
    at added
  cases added
  exact ⟨_, members_collect found _,
    { lan := forgets.lan
      slots := forgets.slots
      overlays := forgets.overlays
      running := forgets.running
      walkers := forgets.walkers
      wanLog := forgets.wanLog
      wan := forgets.wan
      connection := forgets.connection
      same_iff := forgets.same_iff }⟩

/-- In every life of a node on a concrete address, each overlay that is added voids the reports
of WAN addresses, though the LAN address stays. -/
theorem forgets_runs {settings : NodeSettings} {key : PrivateKey} {born : Node}
    (created : Node.create settings key (.v4 address) = .ok born)
    (concrete : address.ip ≠ .unspecified) (outside : address.isLoopback = false)
    (cluster : Cluster) (transport : Nat)
    (runs : Runs cluster.members.length settings.overlays none (cluster.join born transport)
      plans last)
    (added : (Call.addOverlay plan).answer cluster.members.length now last = (.ok (), next)) :
    ∃ before after : Node, last.members[cluster.members.length]? = some ⟨before, transport⟩ ∧
      next.members[cluster.members.length]? = some ⟨after, transport⟩ ∧
      before.Forgets address plan after := by
  let charter : Charter := ⟨settings, key, .v4 address⟩
  have validated := (follows_of_create charter created).1
  have stands := ((stands_join charter cluster transport created).run validated runs).1
  obtain ⟨before, found, follows⟩ := stands.exists_node
  have home := SocketAddress.localAddress?_v4 concrete outside
  have nonempty : address ≠ .empty := fun same => concrete (congrArg Address.ip same)
  obtain ⟨after, foundThen, forgets⟩ :=
    stands.forgets validated home nonempty found follows added
  exact ⟨before, after, found, foundThen, forgets⟩

/-- At any time a packet may come in and be handed to the overlays of a node. -/
theorem exists_dispatched {configured : List OverlayPlan} {born : Option (List OverlayPlan)}
    {first : Cluster} (runs : Runs index configured born first plans last)
    (found : last.members[index]? = some ⟨node, transport⟩) (packet : Packet) (now : Instant)
    (pick : Nat) :
    ∃ (next : Cluster) (after : Node), Runs index configured born first plans next ∧
      next.members[index]? = some ⟨after, transport⟩ ∧
      after.known = (node.dispatch (last.momentOf ⟨node, transport⟩ now) packet pick).known := by
  have arrives : Runs index configured born first plans
      { last with errands := [.dispatch index packet] } :=
    runs.elsewhere rfl fun _ _ => id
  have handed : Cluster.settle { last with errands := [.dispatch index packet] } now pick 1 =
      collect { last with errands := [] } index ⟨node, transport⟩
        (node.dispatch (last.momentOf ⟨node, transport⟩ now) packet pick) := by
    unfold settle
    dsimp only
    unfold settle perform act
    dsimp only
    rw [found]
    rfl
  have there : ({ last with errands := [] } : Cluster).members[index]? =
      some ⟨node, transport⟩ := found
  have collected := members_collect there
    (node.dispatch (last.momentOf ⟨node, transport⟩ now) packet pick)
  rw [← handed] at collected
  exact ⟨_, _, arrives.settles now pick 1, collected, rfl⟩

def sampleLater : OverlayPlan := { settings := { service := ⟨Block.ofNatLE 20 1⟩ } }

def sampleCharter : Charter := ⟨sampleSettings, sampleOwner, sampleBound⟩

theorem stands_sample {last : Cluster} (runs : Runs sampleGround.members.length
      sampleSettings.overlays none (sampleGround.join sampleNode 0) plans last) :
    Stands sampleCharter sampleGround.members.length 0 plans last :=
  ((stands_join sampleCharter sampleGround 0 create_sample).run rfl runs).1

/-- The overlay of the sample is told its WAN address. -/
theorem exists_reported_sample : ∃ (last : Cluster) (node : Node),
    Runs sampleGround.members.length sampleSettings.overlays none
      (sampleGround.join sampleNode 0) (some [samplePlan]) last ∧
    last.members[sampleGround.members.length]? = some ⟨node, 0⟩ ∧
    node.known.wanLog ≠ .empty := by
  have born := stands_join sampleCharter sampleGround 0 create_sample
  obtain ⟨started, runs⟩ := born.exists_started rfl rfl
  have stands := stands_sample runs
  obtain ⟨node, found, follows⟩ := stands.exists_node
  have fulfils := Node.fulfils follows stands.apart
  have services : node.services = [samplePlan.service] := Node.services_of_follows follows
  obtain ⟨slot, runsThere, serves⟩ :=
    List.mem_filterMap.1 (services ▸ List.mem_singleton_self samplePlan.service)
  obtain ⟨overlay, housed, service⟩ := Option.map_eq_some_iff.1 serves
  have carried : Rendezvous.samplePacket.Carries overlay.service .introductionResponse := by
    rw [service]
    exact Host.carries Rendezvous.data_samplePacket rfl
  obtain ⟨last, after, runsThen, foundThen, known⟩ :=
    exists_dispatched runs found Rendezvous.samplePacket 0 0
  have outside : Rendezvous.sampleSigned.peer.address.IsOutside := by
    change Rendezvous.sampleIntroducer.wan.IsOutside
    exact (Address.isOutside_iff _).1 (by decide)
  refine ⟨last, after, runsThen, foundThen, ?_⟩
  have handed := Node.hand_eq_hand_singleton fulfils.apart fulfils.identified (.refl _) runsThere
    serves (service ▸ carried.1) (started.momentOf ⟨node, 0⟩ 0) 0
  rw [known, Node.dispatch, handed, Node.known_hand_singleton housed]
  exact Activity.wanLog_receive_response
    (.start overlay node.known (started.momentOf ⟨node, 0⟩ 0)) carried
    Rendezvous.opened_sample outside 0

theorem exists_added_sample {last : Cluster} (runs : Runs sampleGround.members.length
      sampleSettings.overlays none (sampleGround.join sampleNode 0) (some [samplePlan]) last) :
    ∃ next, (Call.addOverlay sampleLater).answer sampleGround.members.length 0 last =
      (.ok (), next) := by
  have stands := stands_sample runs
  obtain ⟨node, found, follows⟩ := stands.exists_node
  have new : sampleLater.service ∉ node.services := by
    rw [Node.services_of_follows follows]
    decide
  have added := (Call.answer_eq_ok_iff rfl stands found follows (.addOverlay sampleLater) 0).2
    (Node.grants_addOverlay_iff.2 ⟨follows.isRunning, new, rfl⟩)
  exact ⟨_, Prod.ext added rfl⟩

theorem forgets_runs_sample :
    Node.create sampleSettings sampleOwner sampleBound = .ok sampleNode ∧
      ∃ (last next : Cluster) (before after : Node),
        Runs sampleGround.members.length sampleSettings.overlays none
          (sampleGround.join sampleNode 0) (some [samplePlan]) last ∧
        (Call.addOverlay sampleLater).answer sampleGround.members.length 0 last =
          (.ok (), next) ∧
        last.members[sampleGround.members.length]? = some ⟨before, 0⟩ ∧
        next.members[sampleGround.members.length]? = some ⟨after, 0⟩ ∧
        before.Forgets ⟨⟨10, 0, 0, 1⟩, 8090⟩ sampleLater after := by
  obtain ⟨last, _, runs, -⟩ := exists_reported_sample
  obtain ⟨next, added⟩ := exists_added_sample runs
  obtain ⟨before, after, found, foundThen, forgets⟩ :=
    forgets_runs create_sample (by decide) (by decide) sampleGround 0 runs added
  exact ⟨create_sample, last, next, before, after, runs, added, found, foundThen, forgets⟩

/-- A node that runs an overlay and has a report of its WAN address, and has none any more once
another overlay is added. -/
theorem reports_lost_sample :
    ∃ (last next : Cluster) (before after : Node),
      Runs sampleGround.members.length sampleSettings.overlays none
        (sampleGround.join sampleNode 0) (some [samplePlan]) last ∧
      (Call.addOverlay sampleLater).answer sampleGround.members.length 0 last = (.ok (), next) ∧
      last.members[sampleGround.members.length]? = some ⟨before, 0⟩ ∧
      next.members[sampleGround.members.length]? = some ⟨after, 0⟩ ∧
      before.services = [samplePlan.service] ∧
      (∀ overlay ∈ before.running, overlay.lan = ⟨⟨10, 0, 0, 1⟩, 8090⟩) ∧
      after.known.wanLog ≠ before.known.wanLog := by
  obtain ⟨last, before, runs, found, reported⟩ := exists_reported_sample
  obtain ⟨next, added⟩ := exists_added_sample runs
  have stands := stands_sample runs
  obtain ⟨node, foundAlso, follows⟩ := stands.exists_node
  obtain rfl : before = node := by simpa [found] using foundAlso
  have home : sampleBound.localAddress? = some ⟨⟨10, 0, 0, 1⟩, 8090⟩ :=
    SocketAddress.localAddress?_v4 (by decide) (by decide)
  obtain ⟨after, foundThen, forgets⟩ :=
    stands.forgets rfl home (by decide) found follows added
  exact ⟨last, next, before, after, runs, added, found, foundThen,
    Node.services_of_follows follows, forgets.lan, fun same => reported (forgets.same_iff.1 same)⟩

end Cluster

end PeerDiscovery
