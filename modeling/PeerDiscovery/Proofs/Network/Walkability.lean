import PeerDiscovery.Proofs.Network.Rendezvous
import PeerDiscovery.Proofs.Overlay.Estimates

/-!
# Where a response lets an overlay walk

A response that an overlay accepts introduces addresses to the registry that all
overlays of the node share.  Those that may be recorded and are not the overlay's own
become walkable for the overlay, unless a peer of its service occupies them, or another
overlay heard of them before, from a member that is still verified and is no peer of
the service: then they are withheld.
-/

namespace PeerDiscovery

namespace Activity

variable {activity : Activity} {packet : Packet}

theorem lan_takeResponse (activity : Activity) (peer : Peer) (response : IntroductionResponse) :
    (activity.takeResponse peer response).lan =
      (activity.learnWan peer.address response.destination).lan := by
  rw [takeResponse_eq]
  rfl

theorem wan_takeResponse (activity : Activity) (peer : Peer) (response : IntroductionResponse) :
    (activity.takeResponse peer response).wan =
      (activity.learnWan peer.address response.destination).wan := by
  rw [takeResponse_eq]
  rfl

theorem registry_learnWan (activity : Activity) (sender wan : Address) :
    (activity.learnWan sender wan).known.registry = activity.known.registry ∧
      (activity.learnWan sender wan).service = activity.service := by
  unfold learnWan
  split <;> exact ⟨rfl, rfl⟩

/-- A response neither takes an address from whoever withholds it, nor withholds one. -/
theorem withheld_takeResponse_iff {peer : Peer} {response : IntroductionResponse}
    {address : Address} :
    (activity.takeResponse peer response).known.registry.Withheld activity.service
        peer.memberId address ↔
      activity.known.registry.Withheld activity.service peer.memberId address := by
  obtain ⟨registry, service⟩ := activity.registry_learnWan peer.address response.destination
  rw [takeResponse_eq, ← registry, ← service]
  generalize activity.learnWan peer.address response.destination = learned
  have responder : (peer.reporting response.sourceLan response.sourceWan).memberId =
      peer.memberId := rfl
  generalize peer.reporting response.sourceLan response.sourceWan = observed at responder
  rw [← responder]
  exact Registry.withheld_discoverAll_iff.trans Registry.withheld_verify_iff

/-- What the response introduces is credited to its sender, or to a verified member. -/
theorem credited_takeResponse {peer : Peer} {response : IntroductionResponse} {address : Address}
    (listed : address ∈ candidates (activity.takeResponse peer response).lan
      (activity.takeResponse peer response).wan response.introLan response.introWan)
    (admitted : activity.known.registry.admits address)
    (notLan : address ≠ (activity.takeResponse peer response).lan)
    (notWan : address ≠ (activity.takeResponse peer response).wan) :
    (activity.takeResponse peer response).known.registry.Credited peer.memberId address := by
  rw [lan_takeResponse, wan_takeResponse] at listed
  rw [lan_takeResponse] at notLan
  rw [wan_takeResponse] at notWan
  obtain ⟨registry, -⟩ := activity.registry_learnWan peer.address response.destination
  rw [← registry] at admitted
  rw [takeResponse_eq]
  generalize activity.learnWan peer.address response.destination = learned at *
  have recorded : address ∈ (candidates learned.lan learned.wan response.introLan
      response.introWan).filter learned.recordsAddress := by
    rw [List.mem_filter]
    refine ⟨listed, ?_⟩
    simp [recordsAddress, admitted.1, notLan, notWan]
  have responder : (peer.reporting response.sourceLan response.sourceWan).memberId =
      peer.memberId := rfl
  generalize peer.reporting response.sourceLan response.sourceWan = observed at responder
  have admittedThen : (learned.verify observed).known.registry.admits address :=
    (Registry.admits_congr (Registry.blockedAddresses_verify _ _)).2 admitted
  rw [← responder]
  exact Registry.credited_discoverAll recorded admittedThen

theorem advertises_takeResponse (activity : Activity) (peer : Peer)
    (response : IntroductionResponse) :
    (activity.takeResponse peer response).known.registry.advertises peer.memberId
      activity.service = true := by
  obtain ⟨-, service⟩ := activity.registry_learnWan peer.address response.destination
  rw [takeResponse_eq, ← service]
  refine (Registry.advertises_discoverAll _ _).trans ?_
  refine (Registry.advertises_addServices _ _ _ _ _).2 (.inr ⟨rfl, ?_⟩)
  exact List.mem_singleton_self _

theorem service_takeResponse (activity : Activity) (peer : Peer)
    (response : IntroductionResponse) :
    (activity.takeResponse peer response).service = activity.service := by
  rw [takeResponse_eq]
  exact (activity.registry_learnWan peer.address response.destination).2

theorem receive_of_openSigned_response
    (carried : packet.Carries activity.service .introductionResponse)
    {signed : Signed IntroductionResponse}
    (opened : packet.openSigned IntroductionResponse.format activity.moment.now = .ok signed)
    (pick : Nat) :
    activity.receive packet pick =
      ((activity.noteHeard packet).hear signed).takeResponse signed.peer signed.payload :=
  receive_of_takeMembership carried (bind_eq_ok_iff.2 ⟨signed, opened, rfl⟩)

theorem withheld_receive_response_iff
    (carried : packet.Carries activity.service .introductionResponse)
    {signed : Signed IntroductionResponse}
    (opened : packet.openSigned IntroductionResponse.format activity.moment.now = .ok signed)
    (pick : Nat) {address : Address} :
    (activity.receive packet pick).known.registry.Withheld activity.service
        signed.peer.memberId address ↔
      activity.known.registry.Withheld activity.service signed.peer.memberId address := by
  rw [receive_of_openSigned_response carried opened]
  exact withheld_takeResponse_iff.trans
    (Registry.withheld_congr (activity.sameContacts_hear packet signed))

theorem service_receive_response
    (carried : packet.Carries activity.service .introductionResponse)
    {signed : Signed IntroductionResponse}
    (opened : packet.openSigned IntroductionResponse.format activity.moment.now = .ok signed)
    (pick : Nat) : (activity.receive packet pick).service = activity.service := by
  rw [receive_of_openSigned_response carried opened, service_takeResponse]
  rfl

/-- After an overlay has accepted a response, an introduced address that may be recorded and
is not the overlay's own is walkable, exactly unless a verified peer of the service is there
or the address was withheld before. -/
theorem mem_walkable_receive_response
    (carried : packet.Carries activity.service .introductionResponse)
    {signed : Signed IntroductionResponse}
    (opened : packet.openSigned IntroductionResponse.format activity.moment.now = .ok signed)
    (pick : Nat) {address : Address}
    (listed : address ∈ candidates (activity.receive packet pick).lan
      (activity.receive packet pick).wan signed.payload.introLan signed.payload.introWan)
    (nonempty : address ≠ .empty)
    (unblocked : activity.known.registry.isBlocked address = false)
    (notLan : address ≠ (activity.receive packet pick).lan)
    (notWan : address ≠ (activity.receive packet pick).wan) :
    address ∈ (activity.receive packet pick).walkable ↔
      ¬(activity.receive packet pick).known.registry.OccupiedFor activity.service address ∧
        ¬activity.known.registry.Withheld activity.service signed.peer.memberId address := by
  unfold walkable
  rw [← withheld_receive_response_iff carried opened pick,
    service_receive_response carried opened pick]
  rw [receive_of_openSigned_response carried opened pick] at listed notLan notWan ⊢
  have same := activity.sameContacts_hear packet signed
  have admitted : ((activity.noteHeard packet).hear signed).known.registry.admits address := by
    unfold Registry.admits Registry.isBlocked
    rw [same.blockedAddresses]
    exact ⟨nonempty, unblocked⟩
  have credited := credited_takeResponse listed admitted notLan notWan
  exact credited.mem_walkable_iff (advertises_takeResponse _ _ _)

/-- Taking a response puts nobody at an address but the responder at its own. -/
theorem vacant_receive_response {address : Address}
    (vacant : activity.known.registry.Vacant address)
    (carried : packet.Carries activity.service .introductionResponse)
    {signed : Signed IntroductionResponse}
    (opened : packet.openSigned IntroductionResponse.format activity.moment.now = .ok signed)
    (pick : Nat) (elsewhere : packet.source ≠ address) :
    (activity.receive packet pick).known.registry.Vacant address := by
  have noted : (activity.noteHeard packet).known.registry.Vacant address :=
    vacant.sameButMarks (Registry.sameButMarks_markHeard _ _ _)
  have heard : ((activity.noteHeard packet).hear signed).known.registry.Vacant address :=
    Registry.Records.updateClock noted fun _ before => before
  have source := Packet.address_of_openSigned opened
  have responder : (signed.peer.reporting signed.payload.sourceLan
      signed.payload.sourceWan).address ≠ address := source ▸ elsewhere
  rw [receive_of_openSigned_response carried opened, takeResponse_eq]
  obtain ⟨registry, -⟩ := ((activity.noteHeard packet).hear signed).registry_learnWan
    signed.peer.address signed.payload.destination
  rw [← registry] at heard
  exact Registry.Vacant.discoverAll ((heard.verify responder).congr rfl) responder

end Activity

namespace Rendezvous

open Activity

/-- The walker's overlay, when another overlay of the node has met somebody. -/
def sampleActivity (met : List Registry.Operation) : Activity :=
  .start sampleFirst.1.overlay (sampleWalker.acquainted ⟨0, true⟩ met) ⟨0, true⟩

theorem registry_sampleActivity (met : List Registry.Operation) :
    (sampleActivity met).known.registry =
      (sampleWalker.joined ⟨0, true⟩).known.registry.run met := rfl

def samplePacket : Packet :=
  ((Occasion.before sampleFirst sampleSecond sampleThird).response sampleWalker sampleIntroducer
    sampleCandidate).packet

def sampleResponse : IntroductionResponse :=
  sampleIntroducer.response sampleWalker sampleCandidate sampleSecond.2.wanLog.connection
    (IntroductionRequest.identifierAt (sampleFirst.1.overlay.globalTime + 1))

def sampleTime : UInt64 := sampleSecond.1.overlay.globalTime + 1 + 1

def sampleSigned : Signed IntroductionResponse :=
  ⟨samplePacket.signer sampleIntroducer.key.publicKey sampleTime 0, sampleTime, sampleResponse⟩

theorem data_samplePacket : samplePacket.data =
    (sampleIntroducer.draft .introductionResponse sampleTime).frame sampleResponse.encode := rfl

theorem opened_sample :
    samplePacket.openSigned IntroductionResponse.format 0 = .ok sampleSigned :=
  sample_ready.responseVouched.openSigned (by decide) data_samplePacket
    sampleResponse.decode_encode 0

theorem carries_sample (met : List Registry.Operation) :
    samplePacket.Carries (sampleActivity met).service .introductionResponse :=
  Host.carries data_samplePacket rfl

/-- The estimates of the walker, and what it makes of the response. -/
theorem estimates_sample {met : List Registry.Operation}
    (blocks : (sampleWalker.acquainted ⟨0, true⟩ met).registry.BlocksOnly sampleWalker) :
    ((sampleActivity met).receive samplePacket 0).lan = sampleWalker.lan ∧
      ((sampleActivity met).receive samplePacket 0).wan = sampleWalker.wan ∧
      candidates ((sampleActivity met).receive samplePacket 0).lan
        ((sampleActivity met).receive samplePacket 0).wan sampleSigned.payload.introLan
        sampleSigned.payload.introWan = [sampleCandidate.lan, sampleCandidate.wan] := by
  have runs := sampleWalker.runs_station 0 ⟨0, true⟩ blocks
  obtain ⟨settled, -, -, -, log⟩ :=
    runs.hear (Eq.refl (((sampleActivity met).noteHeard samplePacket).hear sampleSigned))
  have names := runs.names
  rw [← log] at names
  have learned := settled.learnWan names sampleSigned.peer.address
  have received := receive_of_openSigned_response (carries_sample met) opened_sample 0
  have lan : ((sampleActivity met).receive samplePacket 0).lan = sampleWalker.lan := by
    rw [received, lan_takeResponse]
    exact learned.lan
  have wan : ((sampleActivity met).receive samplePacket 0).wan = sampleWalker.wan := by
    rw [received, wan_takeResponse]
    exact learned.wan
  refine ⟨lan, wan, ?_⟩
  rw [lan, wan]
  decide

theorem walkable_sample :
    samplePacket.Carries (sampleActivity []).service .introductionResponse ∧
      samplePacket.openSigned IntroductionResponse.format (sampleActivity []).moment.now =
        .ok sampleSigned ∧
      sampleCandidate.wan ∈ ((sampleActivity []).receive samplePacket 0).walkable := by
  have blocks : (sampleWalker.acquainted ⟨0, true⟩ []).registry.BlocksOnly sampleWalker :=
    sampleWalker.blocksOnly_joined ⟨0, true⟩
  obtain ⟨lan, wan, listed⟩ := estimates_sample blocks
  have carried := carries_sample []
  have vacant : (sampleActivity []).known.registry.Vacant sampleCandidate.wan :=
    .of_nobody sample_ready.nobody _
  have elsewhere : samplePacket.source ≠ sampleCandidate.wan :=
    show sampleIntroducer.wan ≠ sampleCandidate.wan by decide
  have unlisted := (sample_triangle.unlisted sampleWalker (by simp) sampleCandidate (by simp)).2
  have vacantThen := vacant_receive_response vacant carried opened_sample 0 elsewhere
  refine ⟨carried, opened_sample, (mem_walkable_receive_response carried opened_sample 0 ?_
    (by decide) (blocks.isBlocked_eq unlisted) ?_ ?_).2 ⟨vacantThen.not_occupiedFor _, ?_⟩⟩
  · rw [listed]
    decide
  · rw [lan]
    decide
  · rw [wan]
    decide
  · rintro ⟨introducer, through, found, -⟩
    rw [show (sampleActivity []).known.registry.addresses = ∅ from sample_ready.nowhere] at found
    simp at found

def otherService : ServiceId := ⟨Block.ofNatLE 20 1⟩

def sampleStranger : Peer :=
  .seenAt (.theirs sampleCandidate.key.publicKey) sampleCandidate.wan false 0

/-- What a response of the candidate does for the other service, if it introduces
somebody with the same LAN address in another network. -/
def sampleHeld : List Registry.Operation :=
  [.verify sampleStranger, .addServices sampleStranger.memberId [otherService],
    .discover sampleStranger sampleCandidate.lan (some otherService)]

theorem run_held (registry : Registry) : registry.run sampleHeld =
    ((registry.verify sampleStranger).addServices sampleStranger.memberId
      [otherService]).discover sampleStranger sampleCandidate.lan (some otherService) := rfl

theorem blocksOnly_held :
    (sampleWalker.acquainted ⟨0, true⟩ sampleHeld).registry.BlocksOnly sampleWalker := by
  have blocks := sampleWalker.blocksOnly_joined ⟨0, true⟩
  unfold Host.acquainted
  dsimp only
  rw [run_held]
  exact (blocks.meet sampleStranger sampleStranger.memberId [otherService]).congr
    (Registry.blockedMembers_discover _ _ _ _) (Registry.blockedAddresses_discover _ _ _ _)

theorem vacant_held :
    (sampleActivity sampleHeld).known.registry.Vacant sampleCandidate.lan := by
  have nobody : (sampleWalker.joined ⟨0, true⟩).known.registry.verified = ∅ :=
    sample_ready.nobody
  have elsewhere : sampleStranger.address ≠ sampleCandidate.lan :=
    show sampleCandidate.wan ≠ sampleCandidate.lan by decide
  rw [registry_sampleActivity, run_held]
  have met := (Registry.Vacant.of_nobody nobody sampleCandidate.lan).verify elsewhere
  have advertised := met.congr
    (Registry.verified_addServices _ sampleStranger.memberId [otherService])
  exact advertised.discover elsewhere

theorem withheld_held : (sampleActivity sampleHeld).known.registry.Withheld
    (sampleActivity sampleHeld).service sampleIntroducer.memberId sampleCandidate.lan := by
  have held : (sampleActivity sampleHeld).known.registry.addresses[sampleCandidate.lan]? =
        some ⟨some sampleStranger.memberId, some otherService⟩ ∧
      sampleStranger.memberId ∈ (sampleActivity sampleHeld).known.registry.verified ∧
      (sampleActivity sampleHeld).known.registry.advertises sampleStranger.memberId
        (sampleActivity sampleHeld).service = false := by
    decide +kernel
  have differs : sampleStranger.memberId ≠ sampleIntroducer.memberId := by
    have pairs := (List.pairwise_cons.1 sample_members).2
    exact ((List.pairwise_cons.1 pairs).1 sampleCandidate (by simp)).symm
  exact ⟨sampleStranger.memberId, some otherService, held.1, held.2.1, differs, by decide,
    held.2.2⟩

/-- An introduced address that is neither blocked nor occupied nor the overlay's own, and that
is not walkable for the overlay, because another overlay heard of it first. -/
theorem not_walkable_of_held :
    samplePacket.Carries (sampleActivity sampleHeld).service .introductionResponse ∧
      samplePacket.openSigned IntroductionResponse.format
        (sampleActivity sampleHeld).moment.now = .ok sampleSigned ∧
      sampleCandidate.lan ∈ candidates ((sampleActivity sampleHeld).receive samplePacket 0).lan
        ((sampleActivity sampleHeld).receive samplePacket 0).wan sampleSigned.payload.introLan
        sampleSigned.payload.introWan ∧
      sampleCandidate.lan ≠ .empty ∧
      (sampleActivity sampleHeld).known.registry.isBlocked sampleCandidate.lan = false ∧
      sampleCandidate.lan ≠ ((sampleActivity sampleHeld).receive samplePacket 0).lan ∧
      sampleCandidate.lan ≠ ((sampleActivity sampleHeld).receive samplePacket 0).wan ∧
      ¬((sampleActivity sampleHeld).receive samplePacket 0).known.registry.OccupiedFor
        (sampleActivity sampleHeld).service sampleCandidate.lan ∧
      sampleCandidate.lan ∉ ((sampleActivity sampleHeld).receive samplePacket 0).walkable := by
  obtain ⟨lan, wan, listed⟩ := estimates_sample blocksOnly_held
  have carried := carries_sample sampleHeld
  have vacant := vacant_receive_response vacant_held carried opened_sample 0
    (show sampleIntroducer.wan ≠ sampleCandidate.lan by decide)
  have isListed : sampleCandidate.lan ∈
      candidates ((sampleActivity sampleHeld).receive samplePacket 0).lan
        ((sampleActivity sampleHeld).receive samplePacket 0).wan sampleSigned.payload.introLan
        sampleSigned.payload.introWan := by
    rw [listed]
    decide
  have unlisted := (sample_triangle.unlisted sampleWalker (by simp) sampleCandidate (by simp)).1
  have unblocked := blocksOnly_held.isBlocked_eq unlisted
  have notLan : sampleCandidate.lan ≠
      ((sampleActivity sampleHeld).receive samplePacket 0).lan := by
    rw [lan]
    decide
  have notWan : sampleCandidate.lan ≠
      ((sampleActivity sampleHeld).receive samplePacket 0).wan := by
    rw [wan]
    decide
  refine ⟨carried, opened_sample, isListed, by decide, unblocked, notLan, notWan,
    vacant.not_occupiedFor _, ?_⟩
  have withheld := (withheld_receive_response_iff carried opened_sample 0).2 withheld_held
  unfold walkable
  rw [service_receive_response carried opened_sample]
  exact withheld.not_mem_walkable

end Rendezvous

end PeerDiscovery
