import PeerDiscovery.Proofs.Node.Calls
import PeerDiscovery.Proofs.Node.Handing

/-!
# The life of a node

Whoever owns a node calls it in any order and as often as they like.  Between two calls
packets arrive, the application has overlays send, estimates of the LAN address are repeated,
and others do as they please, as long as they do not open the node's transport again.

Which overlays run, and with which walks, is then settled by the calls that were carried out:
the node stands as the plans say that these calls left.  Everything else about its life
follows from that.
-/

namespace PeerDiscovery

namespace Cluster

/-- What becomes of a cluster in the life of the node at an index, and of the plans whose
overlays the node runs. -/
inductive Runs (index : Nat) (configured : List OverlayPlan) (born : Option (List OverlayPlan))
    (first : Cluster) : Option (List OverlayPlan) → Cluster → Prop where
  | rests : Runs index configured born first born first
  | carriesOut {plans : Option (List OverlayPlan)} {cluster next : Cluster} (call : Call)
      (now : Instant) : Runs index configured born first plans cluster →
      call.answer index now cluster = (.ok (), next) →
      Runs index configured born first (call.plans configured plans) next
  | refuses {plans : Option (List OverlayPlan)} {cluster next : Cluster} {cause : NodeError}
      (call : Call) (now : Instant) : Runs index configured born first plans cluster →
      call.answer index now cluster = (.error cause, next) →
      Runs index configured born first plans next
  | settles {plans : Option (List OverlayPlan)} {cluster : Cluster} (now : Instant)
      (pick limit : Nat) : Runs index configured born first plans cluster →
      Runs index configured born first plans (cluster.settle now pick limit)
  /-- The application has an overlay that it got hold of, maybe one that runs no longer, do
  something that leaves it on its footing. -/
  | acts {plans : Option (List OverlayPlan)} {cluster : Cluster} (now : Instant)
      (slot : Nat) (change : Activity → Activity) :
      (∀ activity, (change activity).footing = activity.footing) →
      Runs index configured born first plans cluster →
      Runs index configured born first plans
        (cluster.act index now fun moment node => node.employ moment change slot)
  | estimates {plans : Option (List OverlayPlan)} {cluster : Cluster} (now : Instant) :
      Runs index configured born first plans cluster →
      Runs index configured born first plans
        (cluster.act index now fun moment node => node.estimateLan moment)
  | elsewhere {plans : Option (List OverlayPlan)} {cluster next : Cluster} :
      Runs index configured born first plans cluster →
      next.members[index]? = cluster.members[index]? →
      (∀ member, cluster.members[index]? = some member →
        cluster.network.isClosed member.transport = true →
        next.network.isClosed member.transport = true) →
      Runs index configured born first plans next

variable {charter : Charter} {index transport : Nat} {born plans : Option (List OverlayPlan)}
  {first cluster last : Cluster} {node : Node}

namespace Stands

/-- A call that is carried out leaves the node as the plans then say. -/
theorem carryOut {next : Cluster} (validated : charter.settings.validate = .ok ())
    (stands : Stands charter index transport plans cluster) {call : Call} {now : Instant}
    (answered : call.answer index now cluster = (.ok (), next)) :
    Stands charter index transport (call.plans charter.settings.overlays plans) next ∧
      next.network.isClosed transport = (cluster.network.isClosed transport || call.closes) := by
  obtain ⟨node, found, follows⟩ := stands.exists_node
  have ends := Call.ends_answer validated stands found follows call now
  rw [answered] at ends
  cases ends with
  | carriedOut _ _ standsThen closed => exact ⟨standsThen, closed⟩

/-- A call that is refused leaves everything as it was. -/
theorem eq_of_refused {next : Cluster} {cause : NodeError}
    (validated : charter.settings.validate = .ok ())
    (stands : Stands charter index transport plans cluster) {call : Call} {now : Instant}
    (answered : call.answer index now cluster = (.error cause, next)) : next = cluster := by
  obtain ⟨node, found, follows⟩ := stands.exists_node
  have ends := Call.ends_answer validated stands found follows call now
  rw [answered] at ends
  cases ends with
  | refused _ _ => rfl

/-- Another estimate of the LAN address comes to the same. -/
theorem estimate (stands : Stands charter index transport plans cluster) (now : Instant) :
    Stands charter index transport plans
      (cluster.act index now fun moment node => node.estimateLan moment) := by
  obtain ⟨node, found, follows⟩ := stands.exists_node
  unfold act
  rw [found]
  exact .collect found (Node.follows_estimateLan follows _) stands.apart

/-- What persists leaves a closed transport closed, too. -/
theorem keep {next : Cluster} {wasClosed : Prop}
    (before : Stands charter index transport plans cluster ∧
      (wasClosed → cluster.network.isClosed transport = true))
    (persists : Persists index cluster next) :
    Stands charter index transport plans next ∧
      (wasClosed → next.network.isClosed transport = true) := by
  have sameClosed : next.network.isClosed = cluster.network.isClosed :=
    congrArg Prod.snd persists.standing
  refine ⟨before.1.persist persists, fun closed => ?_⟩
  rw [sameClosed]
  exact before.2 closed

/-- Through its whole life a node stands as the plans say, and its transport stays closed once
it is. -/
theorem run (validated : charter.settings.validate = .ok ())
    (stands : Stands charter index transport born first)
    (runs : Runs index charter.settings.overlays born first plans last) :
    Stands charter index transport plans last ∧
      (first.network.isClosed transport = true → last.network.isClosed transport = true) := by
  induction runs with
  | rests => exact ⟨stands, id⟩
  | carriesOut call now _ answered ih =>
      obtain ⟨standsNow, closedNow⟩ := ih.1.carryOut validated answered
      refine ⟨standsNow, fun closed => ?_⟩
      rw [closedNow, ih.2 closed, Bool.true_or]
  | refuses call now _ refused ih =>
      rw [ih.1.eq_of_refused validated refused]
      exact ih
  | settles now pick limit _ ih => exact keep ih (persists_settle _ now pick limit)
  | acts now slot change keeps _ ih =>
      exact keep ih (persists_act fun member _ =>
        Node.standing_employ_of_steady (fun _ _ => keeps _) member.node slot)
  | estimates now _ ih =>
      refine ⟨ih.1.estimate now, fun closed => ?_⟩
      obtain ⟨node, found, -⟩ := ih.1.exists_node
      unfold act
      rw [found]
      exact ih.2 closed
  | elsewhere _ same stays ih =>
      obtain ⟨node, found, follows⟩ := ih.1.exists_node
      refine ⟨.of_node (same.trans found) follows ih.1.apart fun member there => ?_,
        fun closed => stays _ found (ih.2 closed)⟩
      exact ih.1.quiet member (same.symm.trans there)

/-- A node that does not run can be started while its transport is open. -/
theorem exists_started (validated : charter.settings.validate = .ok ())
    (stands : Stands charter index transport none first)
    (isOpen : first.network.isClosed transport = false) :
    ∃ last, Runs index charter.settings.overlays none first (some charter.settings.overlays)
      last := by
  obtain ⟨node, found, follows⟩ := stands.exists_node
  have started := (Call.answer_eq_ok_iff validated stands found follows (.start ⟨0, 0⟩ 0) 0).2
    (Node.grants_start_iff.2 ⟨follows.isRunning, isOpen⟩)
  exact ⟨_, .carriesOut (.start ⟨0, 0⟩ 0) 0 .rests (Prod.ext started rfl)⟩

end Stands

theorem follows_of_create (charter : Charter)
    (created : Node.create charter.settings charter.key charter.bound = .ok node) :
    charter.settings.validate = .ok () ∧ node.standing.Follows charter none ∧
      node.outbox = [] ∧ node.notices = [] := by
  unfold Node.create at created
  split at created
  · cases created
  · rename_i validated
    cases created
    exact ⟨validated, ⟨rfl, rfl, rfl, Household.hosts_nil_iff.2 ⟨rfl, rfl⟩⟩, rfl, rfl⟩

theorem stands_join (charter : Charter) (cluster : Cluster) (transport : Nat)
    (created : Node.create charter.settings charter.key charter.bound = .ok node) :
    Stands charter cluster.members.length transport none (cluster.join node transport) := by
  obtain ⟨-, follows, noDatagram, noNotice⟩ := follows_of_create charter created
  have found : (cluster.join node transport).members[cluster.members.length]? =
      some ⟨node, transport⟩ := List.getElem?_concat_length
  refine .of_node found follows List.nodup_nil fun member there => ?_
  obtain rfl : ⟨node, transport⟩ = member := Option.some.inj (found.symm.trans there)
  exact ⟨noDatagram, noNotice⟩

def sampleOwner : PrivateKey := .ofSecrets (Block.ofNatLE 32 1) (Block.ofNatLE 32 1)

def samplePlan : OverlayPlan := { settings := { service := ⟨Block.ofNatLE 20 0⟩ } }

def sampleSettings : NodeSettings := { overlays := [samplePlan] }

def sampleBound : SocketAddress := .v4 ⟨⟨10, 0, 0, 1⟩, 8090⟩

def sampleNode : Node :=
  { settings := sampleSettings
    key := sampleOwner
    bound := sampleBound
    isRunning := false
    hasEndpoint := false
    known := .empty
    slots := []
    overlays := []
    walkers := []
    outbox := []
    notices := []
    deliveries := [] }

/-- A cluster without nodes, in which one transport is bound. -/
def sampleGround : Cluster := (Cluster.empty.bind sampleBound).2

theorem create_sample : Node.create sampleSettings sampleOwner sampleBound = .ok sampleNode := rfl

end Cluster

end PeerDiscovery
