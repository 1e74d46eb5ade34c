import PeerDiscovery.Proofs.Network.Walkability
import PeerDiscovery.Proofs.Registry.Marks

/-!
# What a response teaches

An overlay that accepts an introduction response sends nothing.  It learns three things: at which
address the responder saw it, where the responder is, and where the introduced peer may be found.
The last depends on the overlay's own estimates as they are once the report has been logged.
Nothing is unlearned, and nobody else is affected.
-/

namespace PeerDiscovery

namespace Registry

variable {registry : Registry} {peer : Peer} {address : Address}

/-- Verifying a peer whose member is not blocked makes its address known, if the address may be
recorded. -/
theorem mem_addresses_verify_iff :
    address ∈ (registry.verify peer).addresses ↔
      address ∈ registry.addresses ∨ address = peer.address ∧ registry.admits address ∧
        registry.blockedMembers.contains peer.memberId = false := by
  rw [mem_addresses_verify]
  refine or_congr_right ⟨?_, ?_⟩
  · rintro ⟨rfl, admitted, taken⟩
    exact ⟨rfl, admitted, taken.1⟩
  · rintro ⟨rfl, admitted, unblocked⟩
    exact ⟨rfl, admitted, unblocked, .inr (.inr (.inr admitted.2))⟩

/-- A peer whose own address is known, as far as it may be, makes known what it introduces. -/
theorem mem_addresses_discoverAll {addresses : List Address} {service : ServiceId}
    (settled : ∀ place ∈ (registry.verify peer).addresses, place ∈ registry.addresses) :
    address ∈ (registry.discoverAll peer addresses service).addresses ↔
      address ∈ registry.addresses ∨ address ∈ addresses ∧ registry.admits address := by
  induction addresses generalizing registry with
  | nil => simp [discoverAll]
  | cons first others ih =>
      have known : ∀ place, place ∈ (registry.discover peer first (some service)).addresses ↔
          place ∈ registry.addresses ∨ place = first ∧ registry.admits place := by
        intro place
        rw [discover_eq, mem_addresses_verify_iff, mem_addresses_introduced, admits_introduced,
          blockedMembers_introduced]
        constructor
        · rintro ((before | ⟨rfl, admitted⟩) | own)
          · exact .inl before
          · exact .inr ⟨rfl, admitted⟩
          · exact .inl (settled place (mem_addresses_verify_iff.2 (.inr own)))
        · rintro (before | ⟨rfl, admitted⟩)
          · exact .inl (.inl before)
          · exact .inl (.inr ⟨rfl, admitted⟩)
      have admitsThen : ∀ place,
          (registry.discover peer first (some service)).admits place ↔ registry.admits place :=
        fun place => admits_congr (registry.blockedAddresses_discover _ _ _)
      have settledThen : ∀ place ∈
          ((registry.discover peer first (some service)).verify peer).addresses,
          place ∈ (registry.discover peer first (some service)).addresses := by
        intro place listed
        rw [mem_addresses_verify_iff, admitsThen, blockedMembers_discover] at listed
        rcases listed with before | own
        · exact before
        · exact (known place).2 (.inl (settled place (mem_addresses_verify_iff.2 (.inr own))))
      refine (ih settledThen).trans ?_
      rw [known, admitsThen, List.mem_cons, or_assoc, ← or_and_right]

theorem verified_discoverAll_of_ne {addresses : List Address} {service : ServiceId}
    {member : MemberId} (differs : peer.memberId ≠ member) :
    (registry.discoverAll peer addresses service).verified[member]? =
      registry.verified[member]? := by
  induction addresses generalizing registry with
  | nil => rfl
  | cons first others ih =>
      refine ih.trans ?_
      rw [getElem?_verified_discover, if_neg (fun both => differs both.1)]

end Registry

/-- A sender outside of the own network reports a WAN address for the first time. -/
structure WanLog.IsNews (log : WanLog) (sender wan : Address) : Prop where
  outside : sender.IsOutside
  fresh : ∀ report ∈ log.reports, report.sender = sender → report.wan ≠ wan

/-- Where an introduced peer may be found that reports a LAN and a WAN address. -/
inductive Suggested (ownLan ownWan lan wan : Address) : Address → Prop where
  | remoteLan : wan ≠ .empty → wan.ip ≠ ownWan.ip → Suggested ownLan ownWan lan wan lan
  | remoteWan : wan ≠ .empty → wan.ip ≠ ownWan.ip → Suggested ownLan ownWan lan wan wan
  | nearby : lan ≠ .empty → wan.ip = ownWan.ip → Suggested ownLan ownWan lan wan lan
  | hairpin : wan ≠ .empty → wan.ip = ownWan.ip → lan = .empty →
      Suggested ownLan ownWan lan wan wan
  | sameHost : wan ≠ .empty → wan.ip = ownWan.ip → lan = .empty →
      Suggested ownLan ownWan lan wan ⟨ownLan.ip, wan.port⟩

namespace Activity

variable {activity : Activity} {packet : Packet} {signed : Signed IntroductionResponse}

/-- What an overlay has learned from a response, and what is as it was. -/
structure Learned (activity : Activity) (packet : Packet) (signed : Signed IntroductionResponse)
    (next : Activity) : Prop where
  sent : next.sent = activity.sent
  lan : next.lan = activity.lan
  reported : activity.known.wanLog.IsNews packet.source signed.payload.destination →
    next.known.wanLog.reports = activity.known.wanLog.reports ++
      [⟨activity.moment.now, packet.source, activity.lan, signed.payload.destination⟩]
  unreported : ¬activity.known.wanLog.IsNews packet.source signed.payload.destination →
    next.known.wanLog = activity.known.wanLog
  /-- The source becomes known unless it or the responder is blocked, and so does what is
  suggested, but for own addresses and blocked ones. -/
  addresses : ∀ address, address ∈ next.known.registry.addresses ↔
    address ∈ activity.known.registry.addresses ∨
      (address = packet.source ∧ activity.known.registry.admits address ∧
        activity.known.registry.blockedMembers.contains signed.peer.memberId = false) ∨
      (Suggested next.lan next.wan signed.payload.introLan signed.payload.introWan address ∧
        activity.known.registry.admits address ∧ address ≠ next.lan ∧ address ≠ next.wan)
  others : ∀ member, member ≠ signed.peer.memberId →
    next.known.registry.verified[member]?.map Peer.unmarked =
      activity.known.registry.verified[member]?.map Peer.unmarked

/-- The list that an overlay goes through holds what is suggested. -/
theorem suggested_iff {ownLan ownWan lan wan address : Address} (nonempty : address ≠ .empty) :
    Suggested ownLan ownWan lan wan address ↔ address ∈ candidates ownLan ownWan lan wan := by
  unfold candidates
  constructor
  · intro suggested
    cases suggested with
    | remoteLan told elsewhere => simp [told, elsewhere, nonempty]
    | remoteWan told elsewhere =>
        rw [if_pos (by simp [told, elsewhere])]
        split <;> simp
    | nearby told near => simp [near, told]
    | hairpin told near untold => simp [near, told, untold]
    | sameHost told near untold => simp [near, told, untold]
  · intro listed
    split at listed
    · rename_i remote
      rw [Bool.and_eq_true, Bool.not_eq_true', Address.isEmpty_eq_false_iff, bne_iff_ne] at remote
      split at listed
      · cases List.mem_singleton.1 listed
        exact .remoteWan remote.1 remote.2
      · rcases List.mem_cons.1 listed with rfl | second
        · exact .remoteLan remote.1 remote.2
        · cases List.mem_singleton.1 second
          exact .remoteWan remote.1 remote.2
    rename_i notRemote
    split at listed
    · rename_i nearby
      rw [Bool.and_eq_true, Bool.not_eq_true', Address.isEmpty_eq_false_iff, beq_iff_eq] at nearby
      cases List.mem_singleton.1 listed
      exact .nearby nearby.1 nearby.2
    rename_i notNearby
    split at listed
    · rename_i told
      rw [Bool.not_eq_true', Address.isEmpty_eq_false_iff] at told
      -- the first two tests have failed, so the IPs agree and there is no LAN address
      have near : wan.ip = ownWan.ip := by simpa [told] using notRemote
      have untold : lan = .empty := by simpa [near] using notNearby
      rcases List.mem_cons.1 listed with rfl | second
      · exact .hairpin told near untold
      · cases List.mem_singleton.1 second
        exact .sameHost told near untold
    · cases listed

theorem sent_learnWan (activity : Activity) (sender wan : Address) :
    (activity.learnWan sender wan).sent = activity.sent ∧
      (activity.learnWan sender wan).lan = activity.lan := by
  unfold learnWan
  split <;> exact ⟨rfl, rfl⟩

theorem repeats_eq_false_iff (log : WanLog) (report : WanReport) :
    log.repeats report = false ↔
      ∀ known ∈ log.reports, known.sender = report.sender → known.wan ≠ report.wan := by
  simp only [WanLog.repeats, List.any_eq_false, Bool.and_eq_true, beq_iff_eq, not_and', ne_eq]

theorem reports_learnWan (activity : Activity) {sender wan : Address}
    (news : activity.known.wanLog.IsNews sender wan) :
    (activity.learnWan sender wan).known.wanLog.reports =
      activity.known.wanLog.reports ++ [⟨activity.moment.now, sender, activity.lan, wan⟩] := by
  classical
  have first := (repeats_eq_false_iff activity.known.wanLog
    ⟨activity.moment.now, sender, activity.lan, wan⟩).2 news.fresh
  rw [learnWan_eq, if_pos news.outside]
  simp only [logWan, WanLog.add, first, Bool.false_eq_true, if_false]

theorem wanLog_learnWan (activity : Activity) {sender wan : Address}
    (stale : ¬activity.known.wanLog.IsNews sender wan) :
    (activity.learnWan sender wan).known.wanLog = activity.known.wanLog := by
  classical
  rw [learnWan_eq]
  split
  · rename_i outside
    have repeated : activity.known.wanLog.repeats
        ⟨activity.moment.now, sender, activity.lan, wan⟩ = true := by
      rw [← Bool.not_eq_false, repeats_eq_false_iff]
      exact fun fresh => stale ⟨outside, fresh⟩
    simp only [logWan, WanLog.add, repeated, if_true]
  · rfl

theorem recordsAddress_iff (activity : Activity) (address : Address) :
    activity.recordsAddress address = true ↔
      address ≠ .empty ∧ address ≠ activity.lan ∧ address ≠ activity.wan := by
  simp only [recordsAddress, Bool.not_eq_true', Bool.or_eq_false_iff,
    Address.isEmpty_eq_false_iff, beq_eq_false_iff_ne, and_assoc]

/-- Once the responder is a peer of the overlay, its own address is known as far as it may be. -/
theorem mem_addresses_verify_discoverAll {peer : Peer} {addresses : List Address}
    {address : Address} :
    address ∈ ((activity.verify peer).known.registry.discoverAll peer addresses
        activity.service).addresses ↔
      address ∈ activity.known.registry.addresses ∨
        (address = peer.address ∧ activity.known.registry.admits address ∧
          activity.known.registry.blockedMembers.contains peer.memberId = false) ∨
        (address ∈ addresses ∧ activity.known.registry.admits address) := by
  have known : ∀ place, place ∈ (activity.verify peer).known.registry.addresses ↔
      place ∈ activity.known.registry.addresses ∨
        place = peer.address ∧ activity.known.registry.admits place ∧
          activity.known.registry.blockedMembers.contains peer.memberId = false :=
    fun place => Registry.mem_addresses_verify_iff
  have blocks : (activity.verify peer).known.registry.blockedAddresses =
        activity.known.registry.blockedAddresses ∧
      (activity.verify peer).known.registry.blockedMembers =
        activity.known.registry.blockedMembers :=
    ⟨Registry.blockedAddresses_verify _ _, Registry.blockedMembers_verify _ _⟩
  have admitsThen : ∀ place, (activity.verify peer).known.registry.admits place ↔
      activity.known.registry.admits place :=
    fun place => Registry.admits_congr blocks.1
  have settled : ∀ place ∈ ((activity.verify peer).known.registry.verify peer).addresses,
      place ∈ (activity.verify peer).known.registry.addresses := by
    intro place listed
    rw [Registry.mem_addresses_verify_iff, admitsThen, blocks.2] at listed
    exact listed.elim id fun own => (known place).2 (.inr own)
  rw [Registry.mem_addresses_discoverAll settled, known, admitsThen, or_assoc]

theorem mem_addresses_takeResponse (activity : Activity) (peer : Peer)
    (response : IntroductionResponse) (address : Address) :
    address ∈ (activity.takeResponse peer response).known.registry.addresses ↔
      address ∈ activity.known.registry.addresses ∨
        (address = peer.address ∧ activity.known.registry.admits address ∧
          activity.known.registry.blockedMembers.contains peer.memberId = false) ∨
        (Suggested (activity.takeResponse peer response).lan
            (activity.takeResponse peer response).wan response.introLan response.introWan
            address ∧
          activity.known.registry.admits address ∧
          address ≠ (activity.takeResponse peer response).lan ∧
          address ≠ (activity.takeResponse peer response).wan) := by
  obtain ⟨registry, -⟩ := activity.registry_learnWan peer.address response.destination
  rw [lan_takeResponse, wan_takeResponse, takeResponse_eq, ← registry]
  generalize activity.learnWan peer.address response.destination = informed
  refine mem_addresses_verify_discoverAll.trans (or_congr_right (or_congr_right ?_))
  rw [List.mem_filter, recordsAddress_iff]
  constructor
  · rintro ⟨⟨listed, nonempty, notLan, notWan⟩, admitted⟩
    exact ⟨(suggested_iff nonempty).2 listed, admitted, notLan, notWan⟩
  · rintro ⟨suggested, admitted, notLan, notWan⟩
    exact ⟨⟨(suggested_iff admitted.1).1 suggested, admitted.1, notLan, notWan⟩, admitted⟩

theorem verified_takeResponse_of_ne {peer : Peer} {response : IntroductionResponse}
    {member : MemberId} (differs : member ≠ peer.memberId) :
    (activity.takeResponse peer response).known.registry.verified[member]? =
      activity.known.registry.verified[member]? := by
  obtain ⟨registry, -⟩ := activity.registry_learnWan peer.address response.destination
  rw [takeResponse_eq, ← registry]
  have responder : (peer.reporting response.sourceLan response.sourceWan).memberId ≠ member :=
    Ne.symm differs
  refine (Registry.verified_discoverAll_of_ne responder).trans ?_
  exact (Registry.getElem?_verified_verify _ _ _).trans (if_neg fun both => responder both.1)

/-- Before a packet is handled, nobody but its signer changes by more than marks. -/
theorem unmarked_hear {Value : Type} (activity : Activity) (packet : Packet)
    (heard : Signed Value) {member : MemberId} (differs : member ≠ heard.peer.memberId) :
    ((activity.noteHeard packet).hear heard).known.registry.verified[member]?.map Peer.unmarked =
      activity.known.registry.verified[member]?.map Peer.unmarked := by
  have noted := activity.known.registry.sameButMarks_markHeard packet.source activity.moment.now
  have untouched : ((activity.noteHeard packet).hear heard).known.registry.verified[member]? =
      (activity.noteHeard packet).known.registry.verified[member]? :=
    (Registry.getElem?_verified_updateClock _ _ _ _ _).trans (if_neg (Ne.symm differs))
  rw [untouched]
  exact noted.verified member

/-- What an overlay learns from a response that it accepts. -/
theorem learned_receive (carried : packet.Carries activity.service .introductionResponse)
    (opened : packet.openSigned IntroductionResponse.format activity.moment.now = .ok signed)
    (pick : Nat) : Learned activity packet signed (activity.receive packet pick) := by
  have same := activity.sameContacts_hear packet signed
  have source := Packet.address_of_openSigned opened
  rw [receive_of_openSigned_response carried opened]
  refine ⟨?sent, ?lan, ?reported, ?unreported, ?addresses, ?others⟩
  case sent =>
    rw [takeResponse_eq]
    exact (sent_learnWan _ _ _).1
  case lan =>
    rw [lan_takeResponse]
    exact (sent_learnWan _ _ _).2
  case reported =>
    intro news
    rw [takeResponse_eq, source]
    exact reports_learnWan ((activity.noteHeard packet).hear signed) news
  case unreported =>
    intro stale
    rw [takeResponse_eq, source]
    exact wanLog_learnWan ((activity.noteHeard packet).hear signed) stale
  case addresses =>
    intro address
    have taught := mem_addresses_takeResponse ((activity.noteHeard packet).hear signed)
      signed.peer signed.payload address
    rw [source, same.addresses, same.blockedMembers,
      Registry.admits_congr same.blockedAddresses] at taught
    exact taught
  case others =>
    intro member differs
    rw [verified_takeResponse_of_ne differs]
    exact unmarked_hear activity packet signed differs

end Activity

namespace Rendezvous

open Activity

theorem learned_receive_sample :
    samplePacket.Carries (sampleActivity []).service .introductionResponse ∧
      samplePacket.openSigned IntroductionResponse.format (sampleActivity []).moment.now =
        .ok sampleSigned ∧
      Learned (sampleActivity []) samplePacket sampleSigned
        ((sampleActivity []).receive samplePacket 0) ∧
      sampleCandidate.wan ∈
        ((sampleActivity []).receive samplePacket 0).known.registry.addresses := by
  have blocks : (sampleWalker.acquainted ⟨0, true⟩ []).registry.BlocksOnly sampleWalker :=
    sampleWalker.blocksOnly_joined ⟨0, true⟩
  have unlisted := (sample_triangle.unlisted sampleWalker (by simp) sampleCandidate (by simp)).2
  have admitted : (sampleActivity []).known.registry.admits sampleCandidate.wan :=
    ⟨by decide, blocks.isBlocked_eq unlisted⟩
  obtain ⟨lan, wan, listed⟩ := estimates_sample blocks
  have learned := learned_receive (carries_sample []) opened_sample 0
  refine ⟨carries_sample [], opened_sample, learned, ?_⟩
  refine (learned.addresses _).2 (.inr (.inr ⟨?_, admitted, ?_, ?_⟩))
  · rw [suggested_iff admitted.1, listed]
    decide
  · rw [lan]
    decide
  · rw [wan]
    decide

end Rendezvous

end PeerDiscovery
