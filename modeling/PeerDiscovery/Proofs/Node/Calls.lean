import PeerDiscovery.Proofs.Node.Errands
import PeerDiscovery.Proofs.Node.Life

/-!
# Calls of a node in a cluster

A node is started and stopped, overlays are added to it and removed, and its walks take steps,
when whoever owns it calls for it.  A call is refused for one of few reasons, which the node
and its transport give; any other call is carried out, and leaves the node running the
overlays of the plans that it asks for.
-/

namespace PeerDiscovery

inductive Call where
  | start (draw : Draw) (pick : Nat)
  | stop
  | addOverlay (plan : OverlayPlan)
  | removeOverlay (service : ServiceId)
  | tick (draw : Draw) (pick : Nat)

namespace Call

/-- How a call of the node at an index goes, and the cluster that it leaves. -/
def answer (call : Call) (index : Nat) (now : Instant) (cluster : Cluster) :
    Except NodeError Unit × Cluster :=
  match call with
  | start draw pick => cluster.start index now draw pick
  | stop => cluster.stop index now
  | addOverlay plan =>
    cluster.attempt index now fun moment node => node.addOverlay moment plan
  | removeOverlay service => cluster.attempt index now fun _ node => node.removeOverlay service
  | tick draw pick =>
    (.ok (), cluster.act index now fun moment node => node.tick moment draw pick)

/-- The plans whose overlays run once a call has been carried out, if the node then runs. -/
def plans (configured : List OverlayPlan) (before : Option (List OverlayPlan)) :
    Call → Option (List OverlayPlan)
  | start _ _ => some configured
  | stop => none
  | addOverlay plan => before.map (· ++ [plan])
  | removeOverlay service => before.map (·.filter fun plan => plan.service != service)
  | tick _ _ => before

/-- Whether carrying out a call closes the transport. -/
def closes : Call → Bool
  | stop => true
  | _ => false

end Call

/-- Why a node refuses a call. -/
inductive Node.Refuses (node : Node) (isClosed : Bool) : Call → NodeError → Prop where
  | alreadyStarted (draw : Draw) (pick : Nat) :
      node.isRunning = true → Refuses node isClosed (.start draw pick) .alreadyStarted
  | closed (draw : Draw) (pick : Nat) :
      node.isRunning = false → isClosed = true →
      Refuses node isClosed (.start draw pick) (.transport .closed)
  | stopsIdle :
      node.isRunning = false → Refuses node isClosed .stop .notRunning
  | addsIdle (plan : OverlayPlan) :
      node.isRunning = false → Refuses node isClosed (.addOverlay plan) .notRunning
  | duplicate (plan : OverlayPlan) :
      node.isRunning = true → plan.service ∈ node.services →
      Refuses node isClosed (.addOverlay plan) (.duplicateOverlay plan.service)
  | invalid (plan : OverlayPlan) (fault : SettingsError) :
      node.isRunning = true → plan.service ∉ node.services →
      plan.settings.validate = .error fault →
      Refuses node isClosed (.addOverlay plan) (.invalidSettings fault)
  | unknown (service : ServiceId) :
      service ∉ node.services →
      Refuses node isClosed (.removeOverlay service) (.unknownOverlay service)

/-- The faults of a plan are those of its settings. -/
theorem OverlayPlan.validate_cases (plan : OverlayPlan) :
    plan.validate = .ok () ∨ ∃ fault, plan.settings.validate = .error fault ∧
      plan.validate = .error (.invalidSettings fault) := by
  unfold validate
  cases plan.settings.validate with
  | ok => exact .inl rfl
  | error fault => exact .inr ⟨fault, rfl, rfl⟩

namespace Node

variable {node : Node} {isClosed : Bool}

theorem Refuses.unique {call : Call} {cause other : NodeError}
    (first : node.Refuses isClosed call cause) (second : node.Refuses isClosed call other) :
    cause = other := by
  cases first <;> cases second <;> simp_all

theorem grants_start_iff {draw : Draw} {pick : Nat} :
    (∀ cause, ¬node.Refuses isClosed (.start draw pick) cause) ↔
      node.isRunning = false ∧ isClosed = false := by
  constructor
  · intro granted
    have idle : node.isRunning = false := by
      rw [← Bool.not_eq_true]
      exact fun running => granted _ (.alreadyStarted draw pick running)
    refine ⟨idle, ?_⟩
    rw [← Bool.not_eq_true]
    exact fun closed => granted _ (.closed draw pick idle closed)
  · rintro ⟨idle, isOpen⟩ cause refuses
    cases refuses <;> simp_all

theorem grants_stop_iff :
    (∀ cause, ¬node.Refuses isClosed .stop cause) ↔ node.isRunning = true := by
  constructor
  · intro granted
    rw [← Bool.not_eq_false]
    exact fun idle => granted _ (.stopsIdle idle)
  · intro running cause refuses
    cases refuses
    simp_all

theorem grants_addOverlay_iff {plan : OverlayPlan} :
    (∀ cause, ¬node.Refuses isClosed (.addOverlay plan) cause) ↔
      node.isRunning = true ∧ plan.service ∉ node.services ∧ plan.validate = .ok () := by
  constructor
  · intro granted
    have running : node.isRunning = true := by
      rw [← Bool.not_eq_false]
      exact fun idle => granted _ (.addsIdle plan idle)
    have new : plan.service ∉ node.services :=
      fun listed => granted _ (.duplicate plan running listed)
    obtain valid | ⟨fault, faulty, -⟩ := plan.validate_cases
    · exact ⟨running, new, valid⟩
    · exact absurd (.invalid plan fault running new faulty) (granted _)
  · rintro ⟨running, new, valid⟩ cause refuses
    cases refuses with
    | addsIdle _ idle => simp_all
    | duplicate _ _ listed => exact new listed
    | invalid _ _ _ _ faulty => simp [OverlayPlan.validate, faulty] at valid

end Node

namespace Cluster

/-- The node at an index stands so and has that transport. -/
def Houses (cluster : Cluster) (index transport : Nat) (standing : Standing) : Prop :=
  cluster.standing.1[index]? = some (standing, transport)

variable {cluster next : Cluster} {index transport : Nat} {standing : Standing} {member : Member}
  {charter : Charter} {plans : Option (List OverlayPlan)} {now : Instant}

theorem houses_iff : cluster.Houses index transport standing ↔
    ∃ node, cluster.members[index]? = some ⟨node, transport⟩ ∧ node.standing = standing := by
  unfold Houses Cluster.standing
  rw [List.getElem?_map, Option.map_eq_some_iff]
  constructor
  · rintro ⟨⟨node, _⟩, found, same⟩
    obtain ⟨stands, rfl⟩ := Prod.mk.injEq _ _ _ _ ▸ same
    exact ⟨node, found, stands⟩
  · rintro ⟨node, found, stands⟩
    exact ⟨_, found, by rw [stands]⟩

/-- The node at an index follows some plans for different services, and nothing that it sent or
told is left with it. -/
structure Stands (charter : Charter) (index transport : Nat) (plans : Option (List OverlayPlan))
    (cluster : Cluster) : Prop where
  houses : ∃ standing, cluster.Houses index transport standing ∧ standing.Follows charter plans
  apart : ((plans.getD []).map (·.service)).Nodup
  quiet : cluster.IsQuiet index

namespace Stands

theorem exists_node (stands : Stands charter index transport plans cluster) :
    ∃ node, cluster.members[index]? = some ⟨node, transport⟩ ∧
      node.standing.Follows charter plans := by
  obtain ⟨standing, houses, follows⟩ := stands.houses
  obtain ⟨node, found, rfl⟩ := houses_iff.1 houses
  exact ⟨node, found, follows⟩

theorem of_node {node : Node} (found : cluster.members[index]? = some ⟨node, transport⟩)
    (follows : node.standing.Follows charter plans)
    (apart : ((plans.getD []).map (·.service)).Nodup) (quiet : cluster.IsQuiet index) :
    Stands charter index transport plans cluster :=
  ⟨⟨node.standing, houses_iff.2 ⟨node, found, rfl⟩, follows⟩, apart, quiet⟩

theorem persist (stands : Stands charter index transport plans cluster)
    (persists : Persists index cluster next) : Stands charter index transport plans next := by
  obtain ⟨standing, houses, follows⟩ := stands.houses
  refine ⟨⟨standing, ?_, follows⟩, stands.apart, persists.quiet stands.quiet⟩
  unfold Houses at *
  rw [persists.standing]
  exact houses

/-- A node that follows some plans is taken up again. -/
theorem collect (found : cluster.members[index]? = some member) {node : Node}
    (follows : node.standing.Follows charter plans)
    (apart : ((plans.getD []).map (·.service)).Nodup) :
    Stands charter index member.transport plans (cluster.collect index member node) := by
  obtain ⟨inside, -⟩ := List.getElem?_eq_some_iff.1 found
  refine ⟨⟨node.standing, ?_, follows⟩, apart, isQuiet_collect cluster index member node⟩
  unfold Houses
  rw [standing_collect]
  exact List.getElem?_set_self (by simpa [Cluster.standing] using inside)

end Stands

/-- A call that fails and leaves the node as it was leaves everything as it was. -/
theorem attempt_of_error {work : Moment → Node → Except NodeError Unit × Node} {cause : NodeError}
    (found : cluster.members[index]? = some member) (quiet : cluster.IsQuiet index)
    (fails : work (cluster.momentOf member now) member.node = (.error cause, member.node)) :
    cluster.attempt index now work = (.error cause, cluster) := by
  unfold attempt
  rw [found]
  dsimp only
  rw [fails]
  exact congrArg (_, ·) (collect_of_isQuiet found quiet)

theorem attempt_of_ok {work : Moment → Node → Except NodeError Unit × Node} {node : Node}
    (found : cluster.members[index]? = some member)
    (done : work (cluster.momentOf member now) member.node = (.ok (), node)) :
    cluster.attempt index now work = (.ok (), cluster.collect index member node) := by
  unfold attempt
  rw [found]
  dsimp only
  rw [done]

end Cluster

namespace Call

open Cluster

/-- How a call of a node with some plans ends.  Either it is refused, and leaves everything as it
was; or it is carried out, and the node follows the plans that are then in force.  A closed
transport stays closed, and stopping closes it. -/
inductive Ends (charter : Charter) (index transport : Nat) (before : Option (List OverlayPlan))
    (cluster : Cluster) (node : Node) (call : Call) : Except NodeError Unit × Cluster → Prop where
  | refused (cause : NodeError) :
      node.Refuses (cluster.network.isClosed transport) call cause →
      Ends charter index transport before cluster node call (.error cause, cluster)
  | carriedOut (next : Cluster) :
      (∀ cause, ¬node.Refuses (cluster.network.isClosed transport) call cause) →
      Stands charter index transport (call.plans charter.settings.overlays before) next →
      next.network.isClosed transport =
        (cluster.network.isClosed transport || call.closes) →
      Ends charter index transport before cluster node call (.ok (), next)

variable {charter : Charter} {index transport : Nat} {before : Option (List OverlayPlan)}
  {cluster : Cluster} {node : Node}

/-- A call that is not refused leaves plans for different services. -/
theorem nodup_plans (validated : charter.settings.validate = .ok ())
    (apart : ((before.getD []).map (·.service)).Nodup)
    (follows : node.standing.Follows charter before) {isClosed : Bool} {call : Call}
    (granted : ∀ cause, ¬node.Refuses isClosed call cause) :
    (((call.plans charter.settings.overlays before).getD []).map (·.service)).Nodup := by
  cases call with
  | start draw pick => exact (NodeSettings.sound_of_validate validated).apart
  | stop => exact List.nodup_nil
  | tick draw pick => exact apart
  | removeOverlay service =>
      cases before with
      | none => exact List.nodup_nil
      | some running => exact apart.sublist (List.filter_sublist.map _)
  | addOverlay plan =>
      cases before with
      | none => exact List.nodup_nil
      | some running =>
          obtain ⟨-, new, -⟩ := Node.grants_addOverlay_iff.1 granted
          rw [Node.services_of_follows follows] at new
          change ((running ++ [plan]).map (·.service)).Nodup
          rw [List.map_append, List.map_singleton]
          exact List.nodup_append_comm.1 (List.nodup_cons.2 ⟨new, apart⟩)

section Ending

variable (validated : charter.settings.validate = .ok ())
  (stands : Stands charter index transport before cluster)
  (found : cluster.members[index]? = some ⟨node, transport⟩)
  (follows : node.standing.Follows charter before)

include validated stands found follows

/-- A call that is not refused is carried out as the node says. -/
theorem Ends.of_collect {call : Call} {node' : Node} {next : Cluster}
    (granted : ∀ cause, ¬node.Refuses (cluster.network.isClosed transport) call cause)
    (followsThen : node'.standing.Follows charter (call.plans charter.settings.overlays before))
    (goesOn : call.closes = false)
    (persists : Persists index (cluster.collect index ⟨node, transport⟩ node') next) :
    Ends charter index transport before cluster node call (.ok (), next) := by
  have taken := Stands.collect found followsThen
    (nodup_plans validated stands.apart follows granted)
  refine .carriedOut next granted (taken.persist persists) ?_
  have closed : next.network.isClosed = cluster.network.isClosed :=
    congrArg Prod.snd persists.standing
  rw [closed, goesOn, Bool.or_false]

theorem ends_start (now : Instant) (draw : Draw) (pick : Nat) :
    Ends charter index transport before cluster node (.start draw pick)
      (cluster.start index now draw pick) := by
  have runs : node.isRunning = before.isSome := follows.isRunning
  unfold Cluster.start
  cases running : node.isRunning with
  | true =>
      rw [attempt_of_error found stands.quiet (Node.start_of_running running)]
      exact .refused _ (.alreadyStarted draw pick running)
  | false =>
      obtain rfl : before = none := by simpa [running] using runs.symm
      cases closed : cluster.network.isClosed transport with
      | true =>
          have shut : (cluster.momentOf ⟨node, transport⟩ now).isOpen = false := by
            simp [momentOf, closed]
          rw [attempt_of_error found stands.quiet (Node.start_of_closed running shut)]
          exact .refused _ (.closed draw pick running closed)
      | false =>
          have isOpen : (cluster.momentOf ⟨node, transport⟩ now).isOpen = true := by
            simp [momentOf, closed]
          obtain ⟨started, starts, followsThen⟩ := Node.start_eq_ok follows validated isOpen
          rw [attempt_of_ok found starts]
          refine .of_collect validated stands found follows ?_ followsThen rfl ?_
          · rw [closed]
            exact Node.grants_start_iff.2 ⟨running, rfl⟩
          · refine Persists.trans ?_ (persists_tick _ index now draw pick)
            refine Persists.trans ?_ (persists_settle _ now pick patience)
            exact .of_members rfl rfl

omit validated in
theorem ends_stop (now : Instant) :
    Ends charter index transport before cluster node stop (cluster.stop index now) := by
  unfold Cluster.stop
  cases running : node.isRunning with
  | false =>
      rw [attempt_of_error found stands.quiet (Node.stop_of_idle running)]
      exact .refused _ (.stopsIdle running)
  | true =>
      obtain ⟨stopped, stops, followsThen⟩ := Node.stop_eq_ok running follows
      rw [attempt_of_ok found stops, found]
      have ended := Stands.collect found followsThen List.nodup_nil
      refine .carriedOut _ (Node.grants_stop_iff.2 running) ⟨ended.houses, ended.apart, ended.quiet⟩ ?_
      rw [closes, Bool.or_true]
      exact MemoryNetwork.isClosed_close_self _ _

theorem ends_addOverlay (now : Instant) (plan : OverlayPlan) :
    Ends charter index transport before cluster node (.addOverlay plan)
      (cluster.attempt index now fun moment node => node.addOverlay moment plan) := by
  have runs : node.isRunning = before.isSome := follows.isRunning
  cases before with
  | none =>
      rw [attempt_of_error found stands.quiet (Node.addOverlay_of_idle runs)]
      exact .refused _ (.addsIdle plan runs)
  | some running =>
      by_cases listed : plan.service ∈ node.services
      · rw [attempt_of_error found stands.quiet (Node.addOverlay_of_mem runs listed)]
        exact .refused _ (.duplicate plan runs listed)
      · obtain valid | ⟨fault, faulty, invalid⟩ := plan.validate_cases
        · rw [attempt_of_ok found
            (Node.addOverlay_of_valid runs follows.hasEndpoint listed valid)]
          exact .of_collect validated stands found follows
            (Node.grants_addOverlay_iff.2 ⟨runs, listed, valid⟩)
            (Node.follows_addOverlay follows _ plan) rfl (.refl index _)
        · rw [attempt_of_error found stands.quiet (Node.addOverlay_of_fault runs listed invalid)]
          exact .refused _ (.invalid plan fault runs listed faulty)

theorem ends_removeOverlay (now : Instant) (service : ServiceId) :
    Ends charter index transport before cluster node (.removeOverlay service)
      (cluster.attempt index now fun _ node => node.removeOverlay service) := by
  by_cases listed : service ∈ node.services
  · obtain ⟨removed, removes, followsThen⟩ :=
      Node.removeOverlay_eq_ok follows stands.apart listed
    rw [attempt_of_ok found removes]
    refine .of_collect validated stands found follows (fun cause refuses => ?_) followsThen rfl
      (.refl index _)
    cases refuses with
    | unknown _ unlisted => exact unlisted listed
  · rw [attempt_of_error found stands.quiet (Node.removeOverlay_of_notMem listed)]
    exact .refused _ (.unknown service listed)

theorem ends_answer (call : Call) (now : Instant) :
    Ends charter index transport before cluster node call (call.answer index now cluster) := by
  cases call with
  | start draw pick => exact ends_start validated stands found follows now draw pick
  | stop => exact ends_stop stands found follows now
  | addOverlay plan => exact ends_addOverlay validated stands found follows now plan
  | removeOverlay service => exact ends_removeOverlay validated stands found follows now service
  | tick draw pick =>
      have persists := (persists_tick cluster index now draw pick : Persists index cluster _)
      refine .carriedOut _ (fun cause refuses => by cases refuses) (stands.persist persists) ?_
      exact (congrFun (congrArg Prod.snd persists.standing) transport).trans (Bool.or_false _).symm

theorem answer_eq_error_iff (call : Call) (now : Instant) (cause : NodeError) :
    (call.answer index now cluster).1 = .error cause ↔
      node.Refuses (cluster.network.isClosed transport) call cause := by
  have ends := ends_answer validated stands found follows call now
  generalize call.answer index now cluster = result at ends
  cases ends with
  | refused other refuses =>
      constructor
      · rintro ⟨⟩
        exact refuses
      · exact fun also => congrArg _ (refuses.unique also)
  | carriedOut next granted => simpa using granted cause

theorem answer_eq_ok_iff (call : Call) (now : Instant) :
    (call.answer index now cluster).1 = .ok () ↔
      ∀ cause, ¬node.Refuses (cluster.network.isClosed transport) call cause := by
  have refused := answer_eq_error_iff validated stands found follows call now
  cases answered : (call.answer index now cluster).1 with
  | ok => simp [← refused, answered]
  | error cause => simpa [answered] using ⟨cause, (refused cause).1 answered⟩

end Ending

end Call

end PeerDiscovery
