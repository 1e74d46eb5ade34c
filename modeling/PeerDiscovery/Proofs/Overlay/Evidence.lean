import PeerDiscovery.Proofs.Overlay.Receiving
import PeerDiscovery.Proofs.Packet.Grammar
import PeerDiscovery.Proofs.Registry.Records

/-!
# The evidence behind a record

A genuine introduction request or response is evidence of its signer: that it is
a member, where it was seen, and which addresses it reports.  A record stands on
the evidence of received packets; merging joins the evidence of two records.  A
registry in which all records stand on evidence, and in which the own member and
the bootstrap addresses are blocked, stays such a registry.
-/

namespace PeerDiscovery

namespace Packet

/-- The packet is a genuine introduction request or response of a service, signed
by a member that reports its LAN and WAN addresses. -/
inductive Introduces (packet : Packet) (service : ServiceId) :
    MemberId → Address → Address → Prop where
  | request (parts : Parts) (request : IntroductionRequest) (rest : Bytes) :
      parts.Genuine → packet.data = parts.bytes →
      parts.front = frontOf service MembershipMessage.introductionRequest.id →
      IntroductionRequest.decode parts.content = .ok (request, rest) →
      Introduces packet service parts.key.memberId request.sourceLan request.sourceWan
  | response (parts : Parts) (response : IntroductionResponse) (rest : Bytes) :
      parts.Genuine → packet.data = parts.bytes →
      parts.front = frontOf service MembershipMessage.introductionResponse.id →
      IntroductionResponse.decode parts.content = .ok (response, rest) →
      Introduces packet service parts.key.memberId response.sourceLan response.sourceWan

variable {packet : Packet} {service : ServiceId} {now : Instant}

theorem front_eq_of_carries {message : MembershipMessage} {parts : Parts}
    (carried : packet.Carries service message) (genuine : parts.Genuine)
    (whole : packet.data = parts.bytes) : parts.front = frontOf service message.id := by
  obtain ⟨rest, starts⟩ := hasHeader_and_messageId?_iff.1 carried
  exact Parts.front_eq genuine.length_front (whole.symm.trans starts)

theorem introduces_of_request {signed : Signed IntroductionRequest}
    (carried : packet.Carries service .introductionRequest)
    (opened : packet.openSigned IntroductionRequest.format now = .ok signed) :
    packet.Introduces service signed.peer.memberId signed.payload.sourceLan
      signed.payload.sourceWan := by
  obtain ⟨parts, request, rest, genuine, whole, decoded, rfl⟩ := openSigned_eq_ok_iff.1 opened
  exact .request parts request rest genuine whole (front_eq_of_carries carried genuine whole)
    decoded

theorem introduces_of_response {signed : Signed IntroductionResponse}
    (carried : packet.Carries service .introductionResponse)
    (opened : packet.openSigned IntroductionResponse.format now = .ok signed) :
    packet.Introduces service signed.peer.memberId signed.payload.sourceLan
      signed.payload.sourceWan := by
  obtain ⟨parts, response, rest, genuine, whole, decoded, rfl⟩ := openSigned_eq_ok_iff.1 opened
  exact .response parts response rest genuine whole (front_eq_of_carries carried genuine whole)
    decoded

theorem address_of_openSigned {Value : Type} {format : Format Value} {signed : Signed Value}
    (opened : packet.openSigned format now = .ok signed) :
    signed.peer.address = packet.source := by
  obtain ⟨parts, payload, rest, -, -, -, rfl⟩ := openSigned_eq_ok_iff.1 opened
  rfl

end Packet

/-- What received packets prove of the record of a member. -/
structure Vouched (packets : List Packet) (service : ServiceId) (member : MemberId)
    (peer : Peer) : Prop where
  keyed : peer.memberId = member
  seen : ∃ packet ∈ packets, packet.source = peer.address ∧
    ∃ lan wan, packet.Introduces service member lan wan
  lan : peer.lan = .empty ∨ ∃ packet ∈ packets, ∃ wan, packet.Introduces service member peer.lan wan
  wan : peer.wan = .empty ∨ ∃ packet ∈ packets, ∃ lan, packet.Introduces service member lan peer.wan

namespace Vouched

variable {packets : List Packet} {service : ServiceId} {member : MemberId} {peer known : Peer}

theorem of_introduces {packet : Packet} (received : packet ∈ packets)
    (source : packet.source = peer.address)
    (introduces : packet.Introduces service peer.memberId peer.lan peer.wan) :
    Vouched packets service peer.memberId peer where
  keyed := rfl
  seen := ⟨packet, received, source, _, _, introduces⟩
  lan := .inr ⟨packet, received, _, introduces⟩
  wan := .inr ⟨packet, received, _, introduces⟩

theorem mono {more : List Packet} (vouched : Vouched packets service member peer)
    (grows : packets ⊆ more) : Vouched more service member peer where
  keyed := vouched.keyed
  seen := by
    obtain ⟨packet, received, shown⟩ := vouched.seen
    exact ⟨packet, grows received, shown⟩
  lan := by
    refine vouched.lan.imp_right ?_
    rintro ⟨packet, received, shown⟩
    exact ⟨packet, grows received, shown⟩
  wan := by
    refine vouched.wan.imp_right ?_
    rintro ⟨packet, received, shown⟩
    exact ⟨packet, grows received, shown⟩

theorem congr {other : Peer} (vouched : Vouched packets service member peer)
    (sameMember : other.memberId = peer.memberId) (sameAddress : other.address = peer.address)
    (sameLan : other.lan = peer.lan) (sameWan : other.wan = peer.wan) :
    Vouched packets service member other where
  keyed := sameMember.trans vouched.keyed
  seen := sameAddress ▸ vouched.seen
  lan := sameLan ▸ vouched.lan
  wan := sameWan ▸ vouched.wan

/-- A merged record rests on the evidence of both. -/
theorem merge {observed : Peer} (vouched : Vouched packets service member known)
    (newer : Vouched packets service member observed) {address : Address}
    (screened : address = .empty ∨ address = observed.address) :
    Vouched packets service member (known.merge { observed with address }) where
  keyed := vouched.keyed
  seen := by
    refine Peer.newerAddress_induction
      (motive := fun place => ∃ packet ∈ packets, packet.source = place ∧
        ∃ lan wan, packet.Introduces service member lan wan) vouched.seen ?_
    intro nonempty
    rw [screened.resolve_left nonempty]
    exact newer.seen
  lan := Peer.newerAddress_induction
    (motive := fun lan => lan = .empty ∨
      ∃ packet ∈ packets, ∃ wan, packet.Introduces service member lan wan)
    vouched.lan (fun _ => newer.lan)
  wan := Peer.newerAddress_induction
    (motive := fun wan => wan = .empty ∨
      ∃ packet ∈ packets, ∃ lan, packet.Introduces service member lan wan)
    vouched.wan (fun _ => newer.wan)

end Vouched

/-- The record of a member that was admitted on evidence: neither the overlay's own
member, nor at a bootstrap address. -/
structure Admitted (settings : OverlaySettings) (own : MemberId) (packets : List Packet)
    (member : MemberId) (peer : Peer) : Prop
    extends Vouched packets settings.service member peer where
  stranger : member ≠ own
  elsewhere : peer.address = .empty ∨ peer.address ∉ settings.bootstrap

namespace Registry

/-- What is blocked, what is known and who is verified in the registry of an
overlay that admits members on evidence only. -/
structure Guarded (settings : OverlaySettings) (own : MemberId) (packets : List Packet)
    (registry : Registry) : Prop where
  ownBlocked : registry.blockedMembers.contains own = true
  bootstrapBlocked : ∀ address ∈ settings.bootstrap, registry.isBlocked address = true
  knownUnblocked : ∀ address ∈ registry.addresses, registry.isBlocked address = false
  records : registry.Records (Admitted settings own packets)
  advertised : registry.Records fun member _ =>
    registry.advertises member settings.service = true

namespace Guarded

variable {settings : OverlaySettings} {own : MemberId} {packets : List Packet}
  {registry : Registry}

theorem mono {more : List Packet} (guarded : Guarded settings own packets registry)
    (grows : packets ⊆ more) : Guarded settings own more registry where
  ownBlocked := guarded.ownBlocked
  bootstrapBlocked := guarded.bootstrapBlocked
  knownUnblocked := guarded.knownUnblocked
  records := guarded.records.imp fun _ _ admitted =>
    { toVouched := admitted.toVouched.mono grows
      stranger := admitted.stranger
      elsewhere := admitted.elsewhere }
  advertised := guarded.advertised

theorem sameButMarks {other : Registry} (guarded : Guarded settings own packets registry)
    (same : SameButMarks registry other) : Guarded settings own packets other where
  ownBlocked := by
    rw [same.blockedMembers]
    exact guarded.ownBlocked
  bootstrapBlocked address listed := by
    unfold isBlocked
    rw [same.blockedAddresses]
    exact guarded.bootstrapBlocked address listed
  knownUnblocked address known := by
    rw [same.addresses] at known
    unfold isBlocked
    rw [same.blockedAddresses]
    exact guarded.knownUnblocked address known
  records := by
    refine guarded.records.sameButMarks same ?_
    intro member first second unmarked admitted
    have sameAddress : second.address = first.address := (congrArg Peer.address unmarked).symm
    exact
      { toVouched := admitted.toVouched.congr (congrArg Peer.memberId unmarked).symm sameAddress
          (congrArg Peer.lan unmarked).symm (congrArg Peer.wan unmarked).symm
        stranger := admitted.stranger
        elsewhere := sameAddress ▸ admitted.elsewhere }
  advertised := by
    have kept := guarded.advertised.sameButMarks same fun _ _ _ _ advertised => advertised
    intro member peer stored
    rw [advertises_congr same.services]
    exact kept member peer stored

theorem updateClock (guarded : Guarded settings own packets registry) (member : MemberId)
    (time : UInt64) (now : Instant) :
    Guarded settings own packets (registry.updateClock member time now) where
  ownBlocked := by
    rw [blockedMembers_updateClock]
    exact guarded.ownBlocked
  bootstrapBlocked address listed := by
    unfold isBlocked
    rw [blockedAddresses_updateClock]
    exact guarded.bootstrapBlocked address listed
  knownUnblocked address known := by
    rw [addresses_updateClock] at known
    unfold isBlocked
    rw [blockedAddresses_updateClock]
    exact guarded.knownUnblocked address known
  records := guarded.records.updateClock fun _ admitted =>
    { toVouched := admitted.toVouched.congr rfl rfl rfl rfl
      stranger := admitted.stranger
      elsewhere := admitted.elsewhere }
  advertised := by
    have kept : Records (registry.updateClock member time now) fun member _ =>
        registry.advertises member settings.service = true :=
      guarded.advertised.updateClock fun _ advertised => advertised
    intro other peer stored
    rw [advertises_congr (registry.services_updateClock member time now)]
    exact kept other peer stored

theorem forgetAddress (guarded : Guarded settings own packets registry) (address : Address) :
    Guarded settings own packets (registry.forgetAddress address) where
  ownBlocked := guarded.ownBlocked
  bootstrapBlocked := guarded.bootstrapBlocked
  knownUnblocked other known :=
    guarded.knownUnblocked other ((registry.mem_addresses_forgetAddress address other).1 known).1
  records := guarded.records.forgetAddress address
  advertised := guarded.advertised.forgetAddress address

theorem addServices (guarded : Guarded settings own packets registry) (member : MemberId)
    (services : List ServiceId) :
    Guarded settings own packets (registry.addServices member services) where
  ownBlocked := guarded.ownBlocked
  bootstrapBlocked := guarded.bootstrapBlocked
  knownUnblocked := guarded.knownUnblocked
  records := guarded.records
  advertised := by
    intro other peer stored
    rw [advertises_addServices]
    exact .inl (guarded.advertised other peer stored)

theorem introduced (guarded : Guarded settings own packets registry) (introducer : MemberId)
    (address : Address) (service : Option ServiceId) :
    Guarded settings own packets (registry.introduced introducer address service) where
  ownBlocked := by
    rw [blockedMembers_introduced]
    exact guarded.ownBlocked
  bootstrapBlocked other listed := by
    rw [isBlocked_introduced]
    exact guarded.bootstrapBlocked other listed
  knownUnblocked other known := by
    rw [mem_addresses_introduced] at known
    rw [isBlocked_introduced]
    rcases known with before | ⟨rfl, admitted⟩
    · exact guarded.knownUnblocked other before
    · exact admitted.2
  records := guarded.records.congr (registry.verified_introduced introducer address service)
  advertised := by
    intro member peer stored
    rw [verified_introduced] at stored
    rw [advertises_congr (registry.services_introduced introducer address service)]
    exact guarded.advertised member peer stored

theorem memberId_ne_of_takes (guarded : Guarded settings own packets registry) {peer : Peer}
    (taken : registry.takes peer) : peer.memberId ≠ own := by
  intro same
  have unblocked := taken.1
  rw [same, guarded.ownBlocked] at unblocked
  cases unblocked

theorem not_mem_bootstrap (guarded : Guarded settings own packets registry) {address : Address}
    (unblocked : registry.isBlocked address = false) : address ∉ settings.bootstrap := by
  intro listed
  rw [guarded.bootstrapBlocked address listed] at unblocked
  cases unblocked

/-- A new peer that is taken has its address unblocked or known, and what is known is
not blocked either. -/
theorem admitted_of_new (guarded : Guarded settings own packets registry) {peer : Peer}
    (vouched : Vouched packets settings.service peer.memberId peer)
    (taken : registry.takes peer) (unknown : registry.verified[peer.memberId]? = none) :
    Admitted settings own packets peer.memberId peer := by
  have absent : peer.memberId ∉ registry.verified := by
    simp [Std.ExtTreeMap.mem_iff_isSome_getElem?, unknown]
  refine
    { toVouched := vouched
      stranger := guarded.memberId_ne_of_takes taken
      elsewhere := ?_ }
  rcases taken.2.resolve_left absent with known | vacant | unblocked
  · exact .inr (guarded.not_mem_bootstrap (guarded.knownUnblocked _ known))
  · exact .inl vacant
  · exact .inr (guarded.not_mem_bootstrap unblocked)

theorem admitted_merge (guarded : Guarded settings own packets registry) {peer known : Peer}
    (vouched : Vouched packets settings.service peer.memberId peer)
    (taken : registry.takes peer) (found : registry.verified[peer.memberId]? = some known) :
    Admitted settings own packets peer.memberId (known.merge (registry.screened peer)) := by
  have before := guarded.records _ known found
  have screened := registry.address_screened peer
  rw [registry.screened_eq peer]
  refine
    { toVouched := before.toVouched.merge vouched (screened.imp_right And.left)
      stranger := guarded.memberId_ne_of_takes taken
      elsewhere := ?_ }
  refine Peer.newerAddress_induction
    (motive := fun place => place = .empty ∨ place ∉ settings.bootstrap) before.elsewhere ?_
  intro nonempty
  obtain ⟨same, unblocked⟩ := screened.resolve_left nonempty
  rw [same]
  exact .inr (guarded.not_mem_bootstrap unblocked)

theorem verify (guarded : Guarded settings own packets registry) {peer : Peer}
    (vouched : Vouched packets settings.service peer.memberId peer)
    (advertises : registry.advertises peer.memberId settings.service = true) :
    Guarded settings own packets (registry.verify peer) where
  ownBlocked := by
    rw [blockedMembers_verify]
    exact guarded.ownBlocked
  bootstrapBlocked address listed := by
    unfold isBlocked
    rw [blockedAddresses_verify]
    exact guarded.bootstrapBlocked address listed
  knownUnblocked address known := by
    rw [mem_addresses_verify] at known
    unfold isBlocked
    rw [blockedAddresses_verify]
    rcases known with before | ⟨rfl, admitted, -⟩
    · exact guarded.knownUnblocked address before
    · exact admitted.2
  records := by
    refine guarded.records.verify ?_ ?_
    · intro taken unknown
      exact guarded.admitted_of_new vouched taken unknown
    · intro known taken found
      exact guarded.admitted_merge vouched taken found
  advertised := by
    have kept : Records (registry.verify peer) fun member _ =>
        registry.advertises member settings.service = true :=
      guarded.advertised.verify (fun _ _ => advertises) (fun _ _ _ => advertises)
    intro member record stored
    rw [advertises_congr (registry.services_verify peer)]
    exact kept member record stored

end Guarded

end Registry

end PeerDiscovery
