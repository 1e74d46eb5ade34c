import PeerDiscovery.Proofs.Network.Limits
import PeerDiscovery.Proofs.Registry.Marks

/-!
# Answering an introduction request

An overlay with room for one more peer gets acquainted with whoever asks for an introduction, and
then introduces a peer of its own, if it has another one: the peer is asked for a puncture, and the
response tells of it.  Both datagrams tell of the same peer, whichever is picked, and of the
requester as it was heard, not as the registry has it.
-/

namespace PeerDiscovery

namespace Registry

structure Introducible (registry : Registry) (service : ServiceId) (excluded member : MemberId)
    (peer : Peer) : Prop where
  verified : registry.verified[member]? = some peer
  advertises : registry.advertises member service = true
  other : member ≠ excluded

/-- Where a member is reached: at the address of its record, or where it was heard. -/
def placeOf (registry : Registry) (member : MemberId) (heard : Address) : Address :=
  (registry.verified[member]?.map (·.address)).getD heard

theorem SameButMarks.placeOf_eq {registry other : Registry} (same : SameButMarks registry other)
    (member : MemberId) (heard : Address) :
    other.placeOf member heard = registry.placeOf member heard := by
  have both := congrArg (Option.map Peer.address) (same.verified member)
  rw [Option.map_map, Option.map_map] at both
  exact congrArg (Option.getD · heard) both

end Registry

namespace Activity

variable {activity next : Activity} {packet : Packet} {signed : Signed IntroductionRequest}

def askerOf (packet : Packet) (signed : Signed IntroductionRequest) (now : Instant) : Peer :=
  { key := signed.peer.key
    address := packet.source
    lan := signed.payload.sourceLan
    wan := signed.payload.sourceWan
    intro := false
    clock := signed.globalTime
    lastRequest := none
    lastResponse := some now }

/-- The registry once a peer is heard, verified and known to be one of the overlay. -/
def acquainted (activity : Activity) (asker : Peer) : Registry :=
  ((activity.known.registry.updateClock asker.memberId asker.clock activity.moment.now).verify
    asker).addServices asker.memberId [activity.service]

/-- The request for a puncture that a candidate gets. -/
def appeal (activity : Activity) (asker : Peer) (identifier : UInt16) (candidate : Peer) :
    Datagram :=
  ⟨candidate.address,
    (activity.claimTime.overlay.draft MembershipMessage.punctureRequest.id false).frame
      (⟨asker.lan, asker.wan, identifier⟩ : Puncture).encode⟩

/-- The response that an asker gets, with the addresses of whom it is introduced to. -/
def reply (activity : Activity) (registry : Registry) (asker : Peer) (identifier : UInt16)
    (introLan introWan : Address) : Datagram :=
  ⟨registry.placeOf asker.memberId asker.address,
    (activity.claimTime.overlay.draft MembershipMessage.introductionResponse.id true).frame
      (IntroductionResponse.encode
        { destination := asker.address
          sourceLan := activity.lan
          sourceWan := activity.wan
          introLan
          introWan
          connection := activity.known.wanLog.connection
          tunnel := false
          identifier
          extra := [] })⟩

/-- What an asker is answered: some other peer is introduced, or there is none. -/
inductive Answer (activity : Activity) (asker : Peer) (identifier : UInt16) :
    List Datagram → Prop where
  | introduces (member : MemberId) (candidate : Peer) :
      (activity.acquainted asker).Introducible activity.service asker.memberId member candidate →
      Answer activity asker identifier
        [activity.appeal asker identifier candidate,
          activity.claimTime.reply (activity.acquainted asker) asker identifier candidate.lan
            candidate.wan]
  | alone :
      (∀ member candidate, ¬(activity.acquainted asker).Introducible activity.service
        asker.memberId member candidate) →
      Answer activity asker identifier
        [activity.reply (activity.acquainted asker) asker identifier .empty .empty]

/-- What becomes of an overlay that answers a request. -/
structure Answers (activity : Activity) (packet : Packet) (signed : Signed IntroductionRequest)
    (next : Activity) : Prop where
  registry : (activity.acquainted (askerOf packet signed activity.moment.now)).SameButMarks
    next.known.registry
  sent : ∃ answer, Answer activity (askerOf packet signed activity.moment.now)
    signed.payload.identifier answer ∧ next.sent = activity.sent ++ answer

theorem reporting_eq_askerOf {now : Instant}
    (opened : packet.openSigned IntroductionRequest.format now = .ok signed) :
    signed.peer.reporting signed.payload.sourceLan signed.payload.sourceWan =
      askerOf packet signed now := by
  obtain ⟨parts, request, rest, -, -, -, rfl⟩ := Packet.openSigned_eq_ok_iff.1 opened
  exact Peer.ext rfl rfl rfl rfl rfl (clock_signer packet parts.key parts.time now) rfl rfl

/-- The marks that a packet has left before do not matter. -/
theorem sameButMarks_acquainted (activity : Activity) (packet : Packet)
    (signed : Signed IntroductionRequest) {asker : Peer}
    (member : asker.memberId = signed.peer.memberId) (time : asker.clock = signed.globalTime) :
    (activity.acquainted asker).SameButMarks
      (((activity.noteHeard packet).hear signed).verify asker).known.registry := by
  have heard := activity.known.registry.sameButMarks_markHeard packet.source activity.moment.now
  have hears : activity.known.registry.updateClock asker.memberId asker.clock
      activity.moment.now = activity.known.registry.updateClock signed.peer.memberId
        signed.globalTime activity.moment.now := by
    rw [member, time]
  rw [acquainted, hears]
  exact ((heard.updateClock signed.peer.memberId signed.globalTime activity.moment.now).verify
    asker).addServices asker.memberId [activity.service]

theorem whereabouts_eq (activity : Activity) (peer : Peer) :
    activity.whereabouts peer = activity.known.registry.placeOf peer.memberId peer.address := by
  unfold whereabouts Registry.placeOf
  cases activity.known.registry.verified[peer.memberId]? <;> rfl

section

variable {registry : Registry} {excluded : MemberId} {pick : Nat}
  (same : registry.SameButMarks activity.known.registry)

include same

theorem exists_introducible (coherent : registry.Coherent) {peer : Peer}
    (chosen : activity.introduction? (some excluded) pick = some peer) :
    ∃ candidate, registry.Introducible activity.service excluded peer.memberId candidate ∧
      candidate.unmarked = peer.unmarked := by
  obtain ⟨differs, member, stored, advertises⟩ := introduction?_eq_some chosen
  have named := (coherent.sameButMarks same).keyed member peer stored
  subst named
  obtain ⟨candidate, known, unmarked⟩ := same.exists_unmarked stored
  rw [same.advertises_eq] at advertises
  exact ⟨candidate, ⟨known, advertises, fun own => differs (congrArg some own)⟩, unmarked⟩

theorem not_introducible (coherent : registry.Coherent)
    (nobody : activity.introduction? (some excluded) pick = none) (member : MemberId)
    (candidate : Peer) :
    ¬registry.Introducible activity.service excluded member candidate := by
  rintro ⟨stored, advertises, other⟩
  have both := same.verified member
  rw [stored, Option.map_some, Option.map_eq_some_iff] at both
  obtain ⟨marked, known, unmarked⟩ := both
  have named := (coherent.sameButMarks same).keyed member marked known
  rw [← same.advertises_eq] at advertises
  have listed : marked ∈ activity.peers :=
    List.mem_map.2 ⟨(member, marked), Registry.mem_peersFor _ |>.2 ⟨known, advertises⟩, rfl⟩
  have picked : marked ∈ activity.peers.filter fun peer => some peer.memberId != some excluded := by
    rw [List.mem_filter, named]
    exact ⟨listed, by simpa using other⟩
  rw [choose?_eq_none_iff.1 nobody] at picked
  cases picked

theorem sent_respond (asker : Peer) (identifier : UInt16) (introduced : Option Peer) :
    (activity.respond asker identifier introduced).sent = activity.sent ++
      [activity.reply registry asker identifier ((introduced.map (·.lan)).getD .empty)
        ((introduced.map (·.wan)).getD .empty)] := by
  rw [respond_eq, sent_sendTo, whereabouts_eq, same.placeOf_eq]
  rfl

theorem sent_askCandidate (asker : Peer) (identifier : UInt16) {introduced candidate : Peer}
    (stored : registry.verified[introduced.memberId]? = some candidate) :
    (activity.askCandidate ⟨asker.lan, asker.wan, identifier⟩ (some introduced)).sent =
      activity.sent ++ [activity.appeal asker identifier candidate] := by
  have place : registry.placeOf introduced.memberId introduced.address = candidate.address := by
    rw [Registry.placeOf, stored]
    rfl
  rw [askCandidate, requestPuncture_eq, sent_sendTo, whereabouts_eq, same.placeOf_eq, place]
  rfl

theorem sameButMarks_askCandidate (walker : Puncture) (introduced : Option Peer) :
    registry.SameButMarks (activity.askCandidate walker introduced).known.registry := by
  cases introduced with
  | none => exact same
  | some candidate =>
      exact same.trans (activity.known.registry.sameButMarks_markSent
        (activity.whereabouts candidate) activity.moment.now)

theorem sameButMarks_respond (asker : Peer) (identifier : UInt16) (introduced : Option Peer) :
    registry.SameButMarks (activity.respond asker identifier introduced).known.registry :=
  same.trans (activity.known.registry.sameButMarks_markSent (activity.whereabouts asker)
    activity.moment.now)

end

theorem coherent_acquainted (coherent : activity.known.registry.Coherent) (asker : Peer) :
    (activity.acquainted asker).Coherent := by
  have verified := (coherent.updateClock asker.memberId asker.clock activity.moment.now).verify asker
  exact ⟨verified.keyed, verified.placed, verified.emptyUnknown⟩

/-- The asker is verified and answered, whoever is picked. -/
theorem answer_respond (coherent : activity.known.registry.Coherent) (packet : Packet)
    {asker : Peer} (named : asker.memberId = signed.peer.memberId)
    (timed : asker.clock = signed.globalTime) (identifier : UInt16) {introduced : Option Peer}
    {pick : Nat}
    (chosen : (((activity.noteHeard packet).hear signed).verify asker).introduction?
      (some asker.memberId) pick = introduced)
    (answered : next = ((((activity.noteHeard packet).hear signed).verify asker).askCandidate
      ⟨asker.lan, asker.wan, identifier⟩ introduced).respond asker identifier introduced) :
    (activity.acquainted asker).SameButMarks next.known.registry ∧
      ∃ answer, Answer activity asker identifier answer ∧ next.sent = activity.sent ++ answer := by
  have same := activity.sameButMarks_acquainted packet signed named timed
  have acquainted := coherent_acquainted coherent asker
  rw [answered]
  cases introduced with
  | none =>
      have nobody := not_introducible same acquainted chosen
      refine ⟨sameButMarks_respond same asker identifier none, _, .alone nobody, ?_⟩
      exact sent_respond same asker identifier none
  | some peer =>
      obtain ⟨candidate, introducible, unmarked⟩ := exists_introducible same acquainted chosen
      have asked := sameButMarks_askCandidate same ⟨asker.lan, asker.wan, identifier⟩ (some peer)
      refine ⟨sameButMarks_respond asked asker identifier (some peer), _,
        .introduces peer.memberId candidate introducible, ?_⟩
      have lan : candidate.lan = peer.lan := (congrArg Peer.lan unmarked :)
      have wan : candidate.wan = peer.wan := (congrArg Peer.wan unmarked :)
      rw [sent_respond asked, sent_askCandidate same asker identifier introducible.verified, lan,
        wan, List.append_assoc]
      rfl

/-- An accepted request is answered by every overlay that has room for one more peer. -/
theorem answers_receive (coherent : activity.known.registry.Coherent)
    (room : ∀ limit, activity.overlay.settings.maxPeers = some limit →
      activity.peers.length < limit)
    (carried : packet.Carries activity.service .introductionRequest)
    (opened : packet.openSigned IntroductionRequest.format activity.moment.now = .ok signed)
    (pick : Nat) : Answers activity packet signed (activity.receive packet pick) := by
  have taken : (activity.noteHeard packet).takeMembership .introductionRequest packet pick =
      .ok (((activity.noteHeard packet).hear signed).answerRequest signed.peer signed.payload
        pick) :=
    bind_eq_ok_iff.2 ⟨signed, opened, rfl⟩
  have spacious : ((activity.noteHeard packet).hear signed).isFull = false := by
    rw [(activity.turnsAway_hear packet signed).isFull_eq]
    cases limited : activity.overlay.settings.maxPeers with
    | none => rw [isFull, limited]; rfl
    | some limit =>
        rw [Bool.eq_false_iff, ne_eq, isFull_iff limited]
        exact Nat.not_le.2 (room limit limited)
  have asks := reporting_eq_askerOf opened
  obtain ⟨registry, sent⟩ := answer_respond coherent packet
    (show (askerOf packet signed activity.moment.now).memberId = signed.peer.memberId from rfl) rfl
    signed.payload.identifier rfl rfl
  refine ⟨?_, ?_⟩
  · rw [receive_of_takeMembership carried taken, answerRequest_eq, spacious, asks]
    exact registry
  · rw [receive_of_takeMembership carried taken, answerRequest_eq, spacious, asks]
    exact sent

/-- Getting acquainted with somebody changes nobody else. -/
theorem introducible_acquainted {asker peer : Peer} {member : MemberId}
    (before : activity.known.registry.Introducible activity.service asker.memberId member peer) :
    (activity.acquainted asker).Introducible activity.service asker.memberId member peer where
  verified := by
    rw [acquainted, Registry.verified_addServices, Registry.getElem?_verified_verify,
      if_neg fun both => before.other both.1.symm, Registry.getElem?_verified_updateClock,
      if_neg (Ne.symm before.other)]
    exact before.verified
  advertises := by
    rw [acquainted, Registry.advertises_addServices,
      Registry.advertises_congr (Registry.services_verify _ _),
      Registry.advertises_congr (Registry.services_updateClock _ _ _ _)]
    exact .inl before.advertises
  other := before.other

end Activity

namespace Rendezvous

open Activity

def roomyIntroducer : Activity := .start sampleSecond.1.overlay sampleSecond.2 ⟨0, true⟩

theorem answers_receive_sample : ∃ signed,
    sampleAsking.openSigned IntroductionRequest.format 0 = .ok signed ∧
      Answers roomyIntroducer sampleAsking signed (roomyIntroducer.receive sampleAsking 7) ∧
      (roomyIntroducer.receive sampleAsking 7).sent.length = 2 := by
  have decoded : IntroductionRequest.format.decode sampleQuestion.encode =
      .ok (sampleQuestion, []) := sampleQuestion.decode_encode
  have whole : sampleAsking.data = (sampleWalker.draft .introductionRequest
      (sampleFirst.1.overlay.globalTime + 1)).frame sampleQuestion.encode := rfl
  obtain ⟨signed, opened⟩ :
      ∃ signed, sampleAsking.openSigned IntroductionRequest.format 0 = .ok signed :=
    ⟨_, sample_ready.requestVouched.openSigned (by decide) whole decoded 0⟩
  have named : (askerOf sampleAsking signed 0).memberId = sampleWalker.memberId :=
    (Host.signs_of_openSigned (by decide) whole opened).1.member
  have carried : sampleAsking.Carries roomyIntroducer.service .introductionRequest :=
    Host.carries whole rfl
  have coherent : roomyIntroducer.known.registry.Coherent := sample_ready.coherent
  have room : ∀ limit, roomyIntroducer.overlay.settings.maxPeers = some limit →
      roomyIntroducer.peers.length < limit := by
    intro limit limited
    have one := congrArg List.length sample_onlyPeer
    rw [List.length_map] at one
    have two := sample_ready.room limit limited
    have peers : roomyIntroducer.peers.length = 1 := (length_peers _).trans one
    omega
  have answers := answers_receive coherent room carried opened 7
  refine ⟨signed, opened, answers, ?_⟩
  obtain ⟨answer, shown, sent⟩ := answers.sent
  rw [sent]
  cases shown with
  | introduces member candidate introducible => rfl
  | alone nobody =>
      have lone := sample_ready.coherent.lone sample_ready.onlyPeer
      obtain ⟨candidate, stored, -⟩ := Registry.contact?_eq_some_iff.1 lone.stored
      have others : sampleWalker.memberId ≠ sampleCandidate.memberId :=
        (List.pairwise_cons.1 sample_members).1 sampleCandidate (by simp)
      have before : roomyIntroducer.known.registry.Introducible roomyIntroducer.service
          (askerOf sampleAsking signed 0).memberId sampleCandidate.memberId candidate := by
        rw [named]
        exact ⟨stored, lone.advertises, others.symm⟩
      exact absurd (introducible_acquainted before) (nobody sampleCandidate.memberId candidate)

end Rendezvous

end PeerDiscovery
