import PeerDiscovery.Proofs.Network.Learning
import PeerDiscovery.Proofs.Overlay.Puncturing

/-!
# Addresses that lead nowhere

A response leaves an address out or tells one to which datagrams can go.  What an overlay
learns from it is such an address too, but for one guess.  An introduced peer behind the own
router that tells no LAN address may run on the own host, so the IP of the own LAN estimate is
joined with the port of the peer's WAN address.  While the own LAN address is unknown, the
guess has a port but no IP: it is not the empty address, and it is recorded.
-/

namespace PeerDiscovery

namespace Address

/-- Datagrams can be sent there, as far as the IP goes. -/
def IsRoutable (address : Address) : Prop := address.ip ≠ .unspecified

instance (address : Address) : Decidable address.IsRoutable :=
  inferInstanceAs (Decidable (address.ip ≠ .unspecified))

/-- The address is left out, or else routable. -/
def IsProper (address : Address) : Prop := address = .empty ∨ address.IsRoutable

instance (address : Address) : Decidable address.IsProper :=
  inferInstanceAs (Decidable (address = .empty ∨ address.IsRoutable))

theorem IsProper.isRoutable {address : Address} (proper : address.IsProper)
    (told : address ≠ .empty) : address.IsRoutable :=
  proper.resolve_left told

end Address

/-- The address is the one at which an introduced peer behind the own router would run on the own
host, of which the LAN address is unknown. -/
structure BlindGuess (ownLan ownWan lan wan address : Address) : Prop where
  unknownHost : ownLan.ip = .unspecified
  untold : lan = .empty
  told : wan ≠ .empty
  near : wan.ip = ownWan.ip
  guess : address = ⟨.unspecified, wan.port⟩

/-- Of all that is suggested only the blind guess is not routable. -/
theorem suggested_unroutable_iff {ownLan ownWan lan wan address : Address}
    (lanProper : lan.IsProper) (wanProper : wan.IsProper)
    (nonempty : address ≠ .empty) :
    Suggested ownLan ownWan lan wan address ∧ ¬address.IsRoutable ↔
      BlindGuess ownLan ownWan lan wan address := by
  constructor
  · rintro ⟨suggested, unroutable⟩
    cases suggested with
    | remoteLan => exact absurd (lanProper.isRoutable nonempty) unroutable
    | remoteWan => exact absurd (wanProper.isRoutable nonempty) unroutable
    | nearby => exact absurd (lanProper.isRoutable nonempty) unroutable
    | hairpin => exact absurd (wanProper.isRoutable nonempty) unroutable
    | sameHost told near untold =>
        have unknownHost : ownLan.ip = .unspecified := Decidable.not_not.1 unroutable
        exact ⟨unknownHost, untold, told, near, by rw [unknownHost]⟩
  · intro blind
    have host : Suggested ownLan ownWan lan wan ⟨ownLan.ip, wan.port⟩ :=
      .sameHost blind.told blind.near blind.untold
    rw [blind.unknownHost, ← blind.guess] at host
    refine ⟨host, fun routable => routable ?_⟩
    rw [blind.guess]

namespace Activity

variable {activity : Activity} {packet : Packet} {signed : Signed IntroductionResponse}

/-- The addresses that are known once a response has been received. -/
theorem mem_addresses_receive_response
    (carried : packet.Carries activity.service .introductionResponse)
    (opened : packet.openSigned IntroductionResponse.format activity.moment.now = .ok signed)
    (pick : Nat) (address : Address) :
    address ∈ (activity.receive packet pick).known.registry.addresses ↔
      address ∈ activity.known.registry.addresses ∨
        (address = packet.source ∧ activity.known.registry.admits address ∧
          activity.known.registry.blockedMembers.contains signed.peer.memberId = false) ∨
        (Suggested (activity.receive packet pick).lan (activity.receive packet pick).wan
            signed.payload.introLan signed.payload.introWan address ∧
          activity.known.registry.admits address ∧
          address ≠ (activity.receive packet pick).lan ∧
          address ≠ (activity.receive packet pick).wan) := by
  have same := activity.sameContacts_hear packet signed
  have taught := mem_addresses_takeResponse ((activity.noteHeard packet).hear signed)
    signed.peer signed.payload address
  rw [Packet.address_of_openSigned opened, same.addresses, same.blockedMembers,
    Registry.admits_congr same.blockedAddresses] at taught
  rw [receive_of_openSigned_response carried opened]
  exact taught

/-- An overlay accepts a response that comes from a proper address and introduces proper ones. -/
structure AcceptsProper (activity : Activity) (packet : Packet)
    (signed : Signed IntroductionResponse) : Prop where
  carried : packet.Carries activity.service .introductionResponse
  opened : packet.openSigned IntroductionResponse.format activity.moment.now = .ok signed
  source : packet.source.IsProper
  introLan : signed.payload.introLan.IsProper
  introWan : signed.payload.introWan.IsProper

/-- An address that becomes known with such a response is routable unless it is the blind guess,
which becomes known like every other suggestion. -/
theorem learns_unroutable_iff (accepts : activity.AcceptsProper packet signed) (pick : Nat)
    {address : Address} (new : address ∉ activity.known.registry.addresses) :
    address ∈ (activity.receive packet pick).known.registry.addresses ∧ ¬address.IsRoutable ↔
      BlindGuess (activity.receive packet pick).lan (activity.receive packet pick).wan
          signed.payload.introLan signed.payload.introWan address ∧
        activity.known.registry.admits address ∧
        address ≠ (activity.receive packet pick).lan ∧
        address ≠ (activity.receive packet pick).wan := by
  have blindly := @suggested_unroutable_iff (activity.receive packet pick).lan
    (activity.receive packet pick).wan _ _ address accepts.introLan accepts.introWan
  rw [mem_addresses_receive_response accepts.carried accepts.opened pick]
  constructor
  · rintro ⟨known | ⟨rfl, admitted, -⟩ | ⟨suggested, admitted, foreign⟩, unroutable⟩
    · exact absurd known new
    · exact absurd (accepts.source.isRoutable admitted.1) unroutable
    · exact ⟨(blindly admitted.1).1 ⟨suggested, unroutable⟩, admitted, foreign⟩
  · rintro ⟨blind, admitted, foreign⟩
    obtain ⟨suggested, unroutable⟩ := (blindly admitted.1).2 blind
    exact ⟨.inr (.inr ⟨suggested, admitted, foreign⟩), unroutable⟩

/-- A response that introduces somebody behind the same router by a WAN address only. -/
def sampleHearsay : IntroductionResponse :=
  { destination := ⟨⟨1, 1, 1, 1⟩, 7⟩
    sourceLan := .empty
    sourceWan := ⟨⟨2, 2, 2, 2⟩, 1⟩
    introLan := .empty
    introWan := ⟨⟨1, 1, 1, 1⟩, 5⟩
    connection := .unknown
    tunnel := false
    identifier := 42
    extra := [] }

def sampleHearsayDraft : Packet.Draft :=
  (Packet.Draft.plain sampleNeighbour.service MembershipMessage.introductionResponse.id 1).signedBy
    Packet.Draft.sampleRecipient

def sampleHearsayPacket : Packet :=
  ⟨⟨⟨2, 2, 2, 2⟩, 1⟩, sampleHearsayDraft.frame sampleHearsay.encode⟩

theorem acceptsProper_sampleHearsay :
    ∃ signed, sampleNeighbour.AcceptsProper sampleHearsayPacket signed ∧
      signed.payload = sampleHearsay := by
  have data : sampleHearsayPacket.data = sampleHearsayDraft.frame sampleHearsay.encode := rfl
  have signs : sampleHearsayDraft.signer = some Packet.Draft.sampleRecipient := rfl
  have vouched : Packet.Draft.sampleRecipient.Vouches
      (sampleHearsayDraft.front ++ sampleHearsay.encode) :=
    ⟨by decide +kernel, by decide +kernel⟩
  have decoded : IntroductionResponse.format.decode sampleHearsay.encode =
      .ok (sampleHearsay, []) := sampleHearsay.decode_encode
  obtain ⟨signed, opened, told⟩ :=
    Packet.Draft.openSigned_frame signs vouched decoded sampleHearsayPacket.source 0
  exact ⟨signed,
    { carried := (Packet.Draft.carries_frame_iff data).2 ⟨rfl, rfl⟩
      opened := opened
      source := by decide
      introLan := by rw [told.payload]; decide
      introWan := by rw [told.payload]; decide }, told.payload⟩

/-- The response confirms the WAN estimate, and the LAN address stays unknown. -/
theorem estimates_sampleHearsay :
    (sampleNeighbour.receive sampleHearsayPacket 0).lan = .empty ∧
      (sampleNeighbour.receive sampleHearsayPacket 0).wan = ⟨⟨1, 1, 1, 1⟩, 7⟩ := by
  obtain ⟨signed, accepts, payload⟩ := acceptsProper_sampleHearsay
  have source := Packet.address_of_openSigned accepts.opened
  rw [receive_of_openSigned_response accepts.carried accepts.opened, lan_takeResponse,
    wan_takeResponse, payload, source]
  exact ⟨rfl, rfl⟩

theorem blindGuess_sampleHearsay : BlindGuess (sampleNeighbour.receive sampleHearsayPacket 0).lan
    (sampleNeighbour.receive sampleHearsayPacket 0).wan sampleHearsay.introLan
    sampleHearsay.introWan ⟨.unspecified, 5⟩ := by
  obtain ⟨lan, wan⟩ := estimates_sampleHearsay
  rw [lan, wan]
  exact ⟨rfl, rfl, by decide, rfl, rfl⟩

theorem admits_blindGuess : sampleNeighbour.known.registry.admits ⟨.unspecified, 5⟩ ∧
    ⟨.unspecified, 5⟩ ≠ (sampleNeighbour.receive sampleHearsayPacket 0).lan ∧
    ⟨.unspecified, 5⟩ ≠ (sampleNeighbour.receive sampleHearsayPacket 0).wan := by
  obtain ⟨lan, wan⟩ := estimates_sampleHearsay
  rw [lan, wan]
  exact ⟨⟨by decide, by decide +kernel⟩, by decide, by decide⟩

/-- The blind guess becomes known, and no other address without IP. -/
theorem learns_unroutable_sample :
    ∃ signed, sampleNeighbour.AcceptsProper sampleHearsayPacket signed ∧
      ∀ address, address ∉ sampleNeighbour.known.registry.addresses →
        (address ∈ (sampleNeighbour.receive sampleHearsayPacket 0).known.registry.addresses ∧
            ¬address.IsRoutable ↔ address = ⟨.unspecified, 5⟩) := by
  obtain ⟨signed, accepts, payload⟩ := acceptsProper_sampleHearsay
  refine ⟨signed, accepts, fun address new => (learns_unroutable_iff accepts 0 new).trans ?_⟩
  rw [payload]
  constructor
  · rintro ⟨blind, -⟩
    exact blind.guess
  · rintro rfl
    exact ⟨blindGuess_sampleHearsay, admits_blindGuess⟩

/-- A response that tells only proper addresses makes an address without IP known. -/
theorem learns_blind_guess :
    ∃ signed, sampleNeighbour.AcceptsProper sampleHearsayPacket signed ∧
      ∃ address, address ∉ sampleNeighbour.known.registry.addresses ∧
        address ∈ (sampleNeighbour.receive sampleHearsayPacket 0).known.registry.addresses ∧
        ¬address.IsRoutable := by
  obtain ⟨signed, accepts, payload⟩ := acceptsProper_sampleHearsay
  have blind := blindGuess_sampleHearsay
  rw [← payload] at blind
  obtain ⟨suggested, unroutable⟩ :=
    (suggested_unroutable_iff accepts.introLan accepts.introWan (by decide)).2 blind
  exact ⟨signed, accepts, ⟨.unspecified, 5⟩, by decide +kernel,
    (mem_addresses_receive_response accepts.carried accepts.opened 0 _).2
      (.inr (.inr ⟨suggested, admits_blindGuess⟩)), unroutable⟩

end Activity

end PeerDiscovery
