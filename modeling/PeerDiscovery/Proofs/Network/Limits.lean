import Mathlib.Data.List.Perm.Subperm
import Mathlib.Logic.Relation
import PeerDiscovery.Proofs.Network.Rendezvous
import PeerDiscovery.Proofs.Overlay.Acceptance
import PeerDiscovery.Proofs.Registry.Contacts
import PeerDiscovery.Proofs.Registry.Observation

/-!
# Limits on the number of peers

A full overlay turns every requester away: the request moves the clock of a record that
exists and sets marks, and nothing is sent.  An overlay with room for one more verifies
the requester, and so gains at most one peer.  Therefore requests alone never take an
overlay over its limit, and neither do removals.

How many peers an overlay has is told by two tables, that of verified peers and that of
services.  Peers are counted by their members, of which each peer has its own.
-/

namespace PeerDiscovery

namespace Registry

/-- Two registries that differ in nothing but the clocks and marks of the records. -/
structure SameProfiles (registry other : Registry) : Prop where
  addresses : other.addresses = registry.addresses
  services : other.services = registry.services
  blockedAddresses : other.blockedAddresses = registry.blockedAddresses
  blockedMembers : other.blockedMembers = registry.blockedMembers
  profiles : ∀ member : MemberId,
    other.verified[member]?.map Peer.profile = registry.verified[member]?.map Peer.profile

namespace SameProfiles

variable {registry other : Registry}

theorem refl (registry : Registry) : SameProfiles registry registry :=
  ⟨rfl, rfl, rfl, rfl, fun _ => rfl⟩

theorem trans {first second third : Registry} (left : SameProfiles first second)
    (right : SameProfiles second third) : SameProfiles first third where
  addresses := right.addresses.trans left.addresses
  services := right.services.trans left.services
  blockedAddresses := right.blockedAddresses.trans left.blockedAddresses
  blockedMembers := right.blockedMembers.trans left.blockedMembers
  profiles member := (right.profiles member).trans (left.profiles member)

theorem of_sameButMarks (same : SameButMarks registry other) : SameProfiles registry other where
  addresses := same.addresses
  services := same.services
  blockedAddresses := same.blockedAddresses
  blockedMembers := same.blockedMembers
  profiles member := by
    have both := congrArg (Option.map fun peer : Peer => { peer with clock := 0 })
      (same.verified member)
    rw [Option.map_map, Option.map_map] at both
    exact both

theorem updateClock (registry : Registry) (member : MemberId) (time : UInt64) (now : Instant) :
    SameProfiles registry (registry.updateClock member time now) where
  addresses := registry.addresses_updateClock member time now
  services := registry.services_updateClock member time now
  blockedAddresses := registry.blockedAddresses_updateClock member time now
  blockedMembers := registry.blockedMembers_updateClock member time now
  profiles other := by
    rw [getElem?_verified_updateClock]
    split
    · rw [Option.map_map]
      rfl
    · rfl

theorem sameContacts (same : SameProfiles registry other) : SameContacts registry other where
  addresses := same.addresses
  services := same.services
  blockedAddresses := same.blockedAddresses
  blockedMembers := same.blockedMembers
  contacts member := by
    have both := congrArg (Option.map Peer.contact) (same.profiles member)
    rw [Option.map_map, Option.map_map] at both
    exact both

end SameProfiles

section Counting

variable {registry other : Registry} {service : ServiceId}

/-- A member is a peer of a service: verified, and advertising the service. -/
def IsPeerFor (registry : Registry) (service : ServiceId) (member : MemberId) : Prop :=
  member ∈ registry.verified ∧ registry.advertises member service = true

theorem mem_members_peersFor {member : MemberId} :
    member ∈ (registry.peersFor service).map Prod.fst ↔ registry.IsPeerFor service member := by
  rw [IsPeerFor, Std.ExtTreeMap.mem_iff_isSome_getElem?, Option.isSome_iff_exists]
  simp only [List.mem_map, Prod.exists, exists_and_right, exists_eq_right, mem_peersFor]

/-- Whoever is a peer now was one before, or is one of a few new ones. -/
theorem length_peersFor_le (new : List MemberId)
    (stems : ∀ member, other.IsPeerFor service member →
      registry.IsPeerFor service member ∨ member ∈ new) :
    (other.peersFor service).length ≤ (registry.peersFor service).length + new.length := by
  have distinct : ((other.peersFor service).map Prod.fst).Nodup :=
    List.pairwise_map.2 (other.pairwise_peersFor service)
  have covered : (other.peersFor service).map Prod.fst ⊆
      (registry.peersFor service).map Prod.fst ++ new := by
    intro member listed
    rw [List.mem_append, mem_members_peersFor]
    exact stems member (mem_members_peersFor.1 listed)
  have few := (List.subperm_of_subset distinct covered).length_le
  simpa only [List.length_append, List.length_map] using few

theorem SameContacts.isPeerFor_iff (same : SameContacts registry other) (member : MemberId) :
    other.IsPeerFor service member ↔ registry.IsPeerFor service member := by
  have stored := congrArg Option.isSome (same.contacts member)
  simp only [contact?, Option.isSome_map] at stored
  rw [IsPeerFor, IsPeerFor, advertises_congr same.services,
    Std.ExtTreeMap.mem_iff_isSome_getElem?, Std.ExtTreeMap.mem_iff_isSome_getElem?, stored]

theorem SameContacts.length_peersFor (same : SameContacts registry other) :
    (other.peersFor service).length = (registry.peersFor service).length := by
  refine Nat.le_antisymm ?_ ?_
  · exact length_peersFor_le [] fun member now => .inl ((same.isPeerFor_iff member).1 now)
  · exact length_peersFor_le [] fun member now => .inl ((same.isPeerFor_iff member).2 now)

/-- Verifying a peer and noting its services makes nobody else a peer. -/
theorem length_peersFor_verify_le (peer : Peer) (services : List ServiceId) :
    (((registry.verify peer).addServices peer.memberId services).peersFor service).length ≤
      (registry.peersFor service).length + 1 := by
  refine length_peersFor_le [peer.memberId] ?_
  rintro member ⟨verified, advertises⟩
  by_cases own : peer.memberId = member
  · exact .inr (List.mem_singleton.2 own.symm)
  · rw [verified_addServices, Std.ExtTreeMap.mem_iff_isSome_getElem?, getElem?_verified_verify,
      if_neg fun both => own both.1, ← Std.ExtTreeMap.mem_iff_isSome_getElem?] at verified
    rw [advertises_addServices, advertises_congr (registry.services_verify peer)] at advertises
    exact .inl ⟨verified, advertises.resolve_right fun both => own both.1⟩

theorem length_peersFor_forgetAddress_le (address : Address) :
    ((registry.forgetAddress address).peersFor service).length ≤
      (registry.peersFor service).length := by
  refine length_peersFor_le [] ?_
  rintro member ⟨verified, advertises⟩
  rw [Std.ExtTreeMap.mem_iff_isSome_getElem?, Option.isSome_iff_exists] at verified
  obtain ⟨peer, stored⟩ := verified
  have before := ((registry.getElem?_verified_forgetAddress address member peer).1 stored).1
  refine .inl ⟨?_, advertises⟩
  rw [Std.ExtTreeMap.mem_iff_isSome_getElem?, before]
  rfl

theorem length_peersFor_forgetPeer_le (forgotten : MemberId) :
    ((registry.forgetPeer forgotten).peersFor service).length ≤
      (registry.peersFor service).length := by
  refine length_peersFor_le [] ?_
  rintro member ⟨verified, advertises⟩
  rw [verified_forgetPeer, Std.ExtTreeMap.mem_erase] at verified
  obtain ⟨differs, before⟩ := verified
  have others : forgotten ≠ member := fun same => differs (Std.LawfulEqCmp.compare_eq_iff_eq.2 same)
  have sameServices : (registry.forgetPeer forgotten).servicesOf member =
      registry.servicesOf member := by
    simp [servicesOf, services_forgetPeer, Std.ExtTreeMap.getD_erase, others]
  refine .inl ⟨before, ?_⟩
  unfold Registry.advertises at advertises ⊢
  rw [← sameServices]
  exact advertises

end Counting

end Registry

namespace Activity

variable {activity next : Activity} {packet : Packet} {limit : Nat}

theorem length_peers (activity : Activity) :
    activity.peers.length = (activity.known.registry.peersFor activity.service).length := by
  rw [peers, List.length_map]

theorem isFull_iff (limited : activity.overlay.settings.maxPeers = some limit) :
    activity.isFull = true ↔ limit ≤ activity.peers.length := by
  rw [isFull, limited, Option.any_some, decide_eq_true_eq]

/-- A request was turned away: clocks and marks of records may have changed, and the log may
tell of it. -/
structure TurnsAway (activity next : Activity) : Prop where
  sent : next.sent = activity.sent
  deliveries : next.deliveries = activity.deliveries
  overlay : next.overlay = activity.overlay
  wanLog : next.known.wanLog = activity.known.wanLog
  registry : activity.known.registry.SameProfiles next.known.registry

theorem turnsAway_noteHeard (activity : Activity) (packet : Packet) :
    TurnsAway activity (activity.noteHeard packet) :=
  ⟨rfl, rfl, rfl, rfl, .of_sameButMarks (Registry.sameButMarks_markHeard _ _ _)⟩

theorem turnsAway_hear {Value : Type} (activity : Activity) (packet : Packet)
    (signed : Signed Value) : TurnsAway activity ((activity.noteHeard packet).hear signed) :=
  ⟨rfl, rfl, rfl, rfl,
    (activity.turnsAway_noteHeard packet).registry.trans (.updateClock _ _ _ _)⟩

namespace TurnsAway

theorem tell (turned : TurnsAway activity next) (notice : Notice) :
    TurnsAway activity (next.tell notice) :=
  ⟨turned.sent, turned.deliveries, turned.overlay, turned.wanLog, turned.registry⟩

theorem service (turned : TurnsAway activity next) : next.service = activity.service := by
  rw [Activity.service, turned.overlay]
  rfl

theorem length_peers (turned : TurnsAway activity next) :
    next.peers.length = activity.peers.length := by
  rw [Activity.length_peers, Activity.length_peers, turned.service]
  exact turned.registry.sameContacts.length_peersFor

theorem isFull_eq (turned : TurnsAway activity next) : next.isFull = activity.isFull := by
  rw [isFull, isFull, turned.length_peers, turned.overlay]

end TurnsAway

theorem length_peers_sendTo (activity : Activity) (destination : Address) (data : Bytes) :
    (activity.sendTo destination data).peers.length = activity.peers.length := by
  rw [length_peers, length_peers]
  exact (Registry.SameContacts.of_sameButMarks
    (Registry.sameButMarks_markSent _ _ _)).length_peersFor

theorem length_peers_verify_le (activity : Activity) (peer : Peer) :
    (activity.verify peer).peers.length ≤ activity.peers.length + 1 := by
  rw [length_peers, length_peers]
  exact Registry.length_peersFor_verify_le peer [activity.service]

/-- An answered request makes one more peer at most. -/
theorem length_peers_answerRequest_le (activity : Activity) (peer : Peer)
    (request : IntroductionRequest) (pick : Nat) :
    (activity.answerRequest peer request pick).peers.length ≤
      if activity.isFull then activity.peers.length else activity.peers.length + 1 := by
  rw [answerRequest_eq]
  split
  · exact Nat.le_refl _
  · dsimp only
    have verified := activity.length_peers_verify_le
      (peer.reporting request.sourceLan request.sourceWan)
    generalize activity.verify (peer.reporting request.sourceLan request.sourceWan) = verifying at *
    have asked : ∀ (walker : Puncture) (introduced : Option Peer),
        (verifying.askCandidate walker introduced).peers.length = verifying.peers.length := by
      intro walker introduced
      cases introduced with
      | none => rfl
      | some candidate => exact length_peers_sendTo _ _ _
    refine Nat.le_trans (Nat.le_of_eq ?_) verified
    exact (length_peers_sendTo _ _ _).trans (asked _ _)

/-- What becomes of an overlay that receives an introduction request: the request is turned
away, or it is answered by an overlay that is not full. -/
theorem turnsAway_or_answers (numbered : packet.messageId? = some MembershipMessage.introductionRequest.id)
    (pick : Nat) :
    TurnsAway activity (activity.receive packet pick) ∨
      activity.isFull = false ∧
        (activity.receive packet pick).peers.length ≤ activity.peers.length + 1 := by
  by_cases headed : packet.hasHeader activity.service = true
  · rw [receive_of_carries ⟨headed, numbered⟩]
    cases taken : (activity.noteHeard packet).takeMembership .introductionRequest packet pick with
    | error cause => exact .inl ((activity.turnsAway_noteHeard packet).tell _)
    | ok next =>
        obtain ⟨signed, -, ⟨⟩⟩ := bind_eq_ok_iff.1 taken
        have heard := activity.turnsAway_hear packet signed
        dsimp only
        by_cases full : activity.isFull = true
        · rw [answerRequest_eq, heard.isFull_eq, if_pos full]
          exact .inl (heard.tell _)
        · have answered := length_peers_answerRequest_le
            ((activity.noteHeard packet).hear signed) signed.peer signed.payload pick
          rw [heard.isFull_eq, if_neg full, heard.length_peers] at answered
          exact .inr ⟨by simpa using full, answered⟩
  · rw [receive_of_foreign (by simpa using headed)]
    exact .inl ⟨rfl, rfl, rfl, rfl, .refl _⟩

theorem turnsAway_of_full (limited : activity.overlay.settings.maxPeers = some limit)
    (numbered : packet.messageId? = some MembershipMessage.introductionRequest.id) (pick : Nat)
    (full : limit ≤ activity.peers.length) : TurnsAway activity (activity.receive packet pick) := by
  rcases activity.turnsAway_or_answers numbered pick with turned | ⟨room, -⟩
  · exact turned
  · rw [(isFull_iff limited).2 full] at room
    cases room

theorem length_peers_receive_request_le
    (limited : activity.overlay.settings.maxPeers = some limit)
    (numbered : packet.messageId? = some MembershipMessage.introductionRequest.id) (pick : Nat) :
    (activity.receive packet pick).peers.length ≤ max limit activity.peers.length := by
  rcases activity.turnsAway_or_answers numbered pick with turned | ⟨room, oneMore⟩
  · rw [turned.length_peers]
    exact Nat.le_max_right _ _
  · have below : ¬limit ≤ activity.peers.length := by
      rw [← isFull_iff limited, room]
      exact Bool.false_ne_true
    omega

/-- Something that happens to an overlay while its registry changes by requests to the overlay
and by removals only. -/
inductive GrowsByRequests (activity : Activity) : Activity → Prop where
  | request (moment : Moment) (packet : Packet) (pick : Nat) :
      packet.messageId? = some MembershipMessage.introductionRequest.id →
      GrowsByRequests activity ({ activity with moment }.receive packet pick)
  | forgetAddress (address : Address) :
      GrowsByRequests activity (activity.onRegistry (·.forgetAddress address))
  | forgetPeer (member : MemberId) :
      GrowsByRequests activity (activity.onRegistry (·.forgetPeer member))
  | otherwise (next : Activity) : next.overlay.settings = activity.overlay.settings →
      activity.known.registry.SameContacts next.known.registry → GrowsByRequests activity next

theorem settings_receive (activity : Activity) (packet : Packet) (pick : Nat) :
    (activity.receive packet pick).overlay.settings = activity.overlay.settings :=
  congrArg (fun reader => reader.2.1) (activity.reader_receive packet pick)

structure Within (settings : OverlaySettings) (limit : Nat) (activity : Activity) : Prop where
  configured : activity.overlay.settings = settings
  few : activity.peers.length ≤ limit

theorem Within.grow {settings : OverlaySettings} (limited : settings.maxPeers = some limit)
    (within : Within settings limit activity) (grows : GrowsByRequests activity next) :
    Within settings limit next := by
  have service : activity.service = settings.service :=
    congrArg OverlaySettings.service within.configured
  have few := within.few
  rw [length_peers, service] at few
  cases grows with
  | request moment packet pick numbered =>
      refine ⟨(settings_receive _ packet pick).trans within.configured, ?_⟩
      have atMoment : ({ activity with moment } : Activity).overlay.settings.maxPeers =
          some limit := by
        rw [← limited, ← within.configured]
      have bounded := length_peers_receive_request_le atMoment numbered pick
      have before : ({ activity with moment } : Activity).peers.length ≤ limit := within.few
      omega
  | forgetAddress address =>
      refine ⟨within.configured, ?_⟩
      rw [length_peers]
      exact Nat.le_trans (Registry.length_peersFor_forgetAddress_le address) (service ▸ few)
  | forgetPeer member =>
      refine ⟨within.configured, ?_⟩
      rw [length_peers]
      exact Nat.le_trans (Registry.length_peersFor_forgetPeer_le member) (service ▸ few)
  | otherwise _ sameSettings sameContacts =>
      refine ⟨sameSettings.trans within.configured, ?_⟩
      have sameService : next.service = settings.service :=
        congrArg OverlaySettings.service (sameSettings.trans within.configured)
      rw [length_peers, sameService, sameContacts.length_peersFor]
      exact few

theorem Within.run {settings : OverlaySettings} (limited : settings.maxPeers = some limit)
    (within : Within settings limit activity)
    (run : Relation.ReflTransGen GrowsByRequests activity next) :
    Within settings limit next := by
  induction run with
  | refl => exact within
  | tail _ grows ih => exact ih.grow limited grows

/-- A full overlay turns requesters away, one request makes at most as many peers as the limit
allows or as there were, and an overlay within its limit stays there. -/
theorem peers_within_limit (limited : activity.overlay.settings.maxPeers = some limit) :
    (∀ packet pick, packet.messageId? = some MembershipMessage.introductionRequest.id →
      (limit ≤ activity.peers.length → TurnsAway activity (activity.receive packet pick)) ∧
        (activity.receive packet pick).peers.length ≤ max limit activity.peers.length) ∧
      ∀ last, Relation.ReflTransGen GrowsByRequests activity last →
        activity.peers.length ≤ limit → last.peers.length ≤ limit := by
  refine ⟨fun packet pick numbered => ⟨turnsAway_of_full limited numbered pick,
    length_peers_receive_request_le limited numbered pick⟩, ?_⟩
  intro last run few
  have within : Within activity.overlay.settings limit activity := ⟨rfl, few⟩
  exact (within.run limited run).few

end Activity

namespace Rendezvous

open Activity

/-- The introducer, if it takes one peer only: the candidate is that one. -/
def fullIntroducer : Activity :=
  .start { sampleSecond.1.overlay with
      settings := { sampleIntroducer.settings with maxPeers := some 1 } } sampleSecond.2 ⟨0, true⟩

def sampleQuestion : IntroductionRequest :=
  sampleWalker.request sampleIntroducer.wan sampleFirst.2.wanLog.connection
    (IntroductionRequest.identifierAt (sampleFirst.1.overlay.globalTime + 1))

def sampleAsking : Packet :=
  ⟨sampleWalker.wan, (sampleWalker.draft .introductionRequest
    (sampleFirst.1.overlay.globalTime + 1)).frame sampleQuestion.encode⟩

theorem length_peers_fullIntroducer : fullIntroducer.peers.length = 1 := by
  have contacts := congrArg List.length sample_onlyPeer
  rw [List.length_map] at contacts
  exact (length_peers _).trans contacts

theorem peers_within_limit_sample :
    (∃ signed, sampleAsking.openSigned IntroductionRequest.format 0 = .ok signed) ∧
      fullIntroducer.overlay.settings.maxPeers = some 1 ∧
      TurnsAway fullIntroducer (fullIntroducer.receive sampleAsking 0) ∧
      ((fullIntroducer.onRegistry (·.forgetPeer sampleCandidate.memberId)).receive
        sampleAsking 0).peers.length ≤ 1 := by
  have decoded : IntroductionRequest.format.decode sampleQuestion.encode =
      .ok (sampleQuestion, []) := sampleQuestion.decode_encode
  have whole : sampleAsking.data = (sampleWalker.draft .introductionRequest
      (sampleFirst.1.overlay.globalTime + 1)).frame sampleQuestion.encode := rfl
  have opened := sample_ready.requestVouched.openSigned (by decide) whole decoded 0
  have carried : sampleAsking.Carries sampleWalker.service .introductionRequest :=
    Host.carries whole rfl
  have limited : fullIntroducer.overlay.settings.maxPeers = some 1 := rfl
  have one := length_peers_fullIntroducer
  have within := peers_within_limit limited
  have left : GrowsByRequests fullIntroducer
      (fullIntroducer.onRegistry (·.forgetPeer sampleCandidate.memberId)) := .forgetPeer _
  have asked : GrowsByRequests (fullIntroducer.onRegistry (·.forgetPeer sampleCandidate.memberId))
      ((fullIntroducer.onRegistry (·.forgetPeer sampleCandidate.memberId)).receive
        sampleAsking 0) :=
    .request ⟨0, true⟩ sampleAsking 0 carried.2
  refine ⟨⟨_, opened⟩, limited, ?_, ?_⟩
  · exact (within.1 sampleAsking 0 carried.2).1 (Nat.le_of_eq one.symm)
  · exact within.2 _ (.tail (.single left) asked) (Nat.le_of_eq one)

end Rendezvous

end PeerDiscovery
