import PeerDiscovery.Proofs.Network.Hosts
import PeerDiscovery.Proofs.Registry.Contacts

/-!
# Hosts in a registry

What the registries of three hosts say of each other in the course of an
introduction: the introducer knows the candidate and nobody else; the walker
knows nobody, then the introducer, then the addresses that were introduced.
-/

namespace PeerDiscovery

/-- The contact of a host that reports both of its addresses. -/
def Host.contact (host : Host) : Contact := ⟨host.memberId, host.wan, host.lan, host.wan⟩

/-- In this registry a host is the only verified peer of a service. -/
structure Registry.Lone (registry : Registry) (service : ServiceId) (host : Host) : Prop where
  keyed : registry.Records fun member peer => peer.memberId = member
  stored : registry.contact? host.memberId = some host.contact
  advertises : registry.advertises host.memberId service = true
  alone : registry.Records fun member _ =>
    registry.advertises member service = true → member = host.memberId

namespace Registry.Lone

variable {registry other : Registry} {service : ServiceId} {host : Host}

theorem sameContacts (lone : registry.Lone service host) (same : registry.SameContacts other) :
    other.Lone service host := by
  have before : ∀ (member : MemberId) (peer : Peer), other.verified[member]? = some peer →
      ∃ known : Peer, registry.verified[member]? = some known ∧
        known.contact = peer.contact := by
    intro member peer stored
    have contact := contact?_of_stored stored
    rw [same.contacts] at contact
    exact contact?_eq_some_iff.1 contact
  refine
    { keyed := ?_
      stored := (same.contacts _).trans lone.stored
      advertises := (advertises_congr same.services _ _).trans lone.advertises
      alone := ?_ }
  · intro member peer stored
    obtain ⟨known, found, contact⟩ := before member peer stored
    exact (congrArg Contact.member contact).symm.trans (lone.keyed member known found)
  · intro member peer stored offers
    obtain ⟨known, found, -⟩ := before member peer stored
    rw [advertises_congr same.services] at offers
    exact lone.alone member known found offers

theorem length_peersFor (lone : registry.Lone service host) :
    (registry.peersFor service).length = 1 := by
  obtain ⟨peer, stored, -⟩ := contact?_eq_some_iff.1 lone.stored
  have single := registry.filter_peersFor_eq service (fun _ => true) stored lone.advertises rfl
    fun other record known offers _ => lone.alone other record known offers
  rw [List.filter_eq_self.2 fun _ _ => rfl] at single
  rw [single]
  rfl

end Registry.Lone

namespace Registry

/-- Nothing is blocked but what the overlay of a host blocks when it is loaded. -/
structure BlocksOnly (registry : Registry) (host : Host) : Prop where
  members : ∀ member, registry.blockedMembers.contains member = true → member = host.memberId
  addresses : ∀ address, registry.isBlocked address = true → address ∈ host.settings.bootstrap

namespace BlocksOnly

variable {registry other : Registry} {host : Host}

theorem congr (blocks : registry.BlocksOnly host)
    (sameMembers : other.blockedMembers = registry.blockedMembers)
    (sameAddresses : other.blockedAddresses = registry.blockedAddresses) :
    other.BlocksOnly host where
  members := by
    rw [sameMembers]
    exact blocks.members
  addresses := by
    unfold isBlocked
    rw [sameAddresses]
    exact blocks.addresses

theorem isBlocked_eq (blocks : registry.BlocksOnly host) {address : Address}
    (unlisted : address ∉ host.settings.bootstrap) : registry.isBlocked address = false := by
  rw [← Bool.not_eq_true]
  exact fun blocked => unlisted (blocks.addresses address blocked)

theorem welcomes (blocks : registry.BlocksOnly host) {peer : Peer} {shown : Host}
    (contact : peer.contact = shown.contact) (differ : shown.memberId ≠ host.memberId)
    (unlisted : shown.wan ∉ host.settings.bootstrap) (lan : shown.lan ≠ .empty)
    (wan : shown.wan ≠ .empty) : registry.Welcomes peer where
  member := by
    rw [← Bool.not_eq_true]
    intro blocked
    exact differ ((congrArg Contact.member contact).symm.trans (blocks.members _ blocked))
  unblocked := by
    rw [show peer.address = shown.wan from congrArg Contact.address contact]
    exact blocks.isBlocked_eq unlisted
  address := by
    rw [show peer.address = shown.wan from congrArg Contact.address contact]
    exact wan
  lan := by
    rw [show peer.lan = shown.lan from congrArg Contact.lan contact]
    exact lan
  wan := by
    rw [show peer.wan = shown.wan from congrArg Contact.wan contact]
    exact wan

end BlocksOnly

structure Knows (registry : Registry) (service : ServiceId) (introducer : Host)
    (found : List Address) : Prop where
  contacts : ∀ member : MemberId, registry.contact? member =
    if introducer.memberId = member then some introducer.contact else none
  addresses : ∀ address : Address, registry.addresses[address]? =
    if address ∈ found then some ⟨some introducer.memberId, some service⟩
    else if introducer.wan = address then some .direct
    else none
  advertises : registry.advertises introducer.memberId service = true

namespace Knows

variable {registry other : Registry} {service : ServiceId} {introducer : Host}
  {found : List Address}

theorem sameContacts (knows : registry.Knows service introducer found)
    (same : registry.SameContacts other) : other.Knows service introducer found where
  contacts member := (same.contacts member).trans (knows.contacts member)
  addresses address := by
    rw [same.addresses]
    exact knows.addresses address
  advertises := (advertises_congr same.services _ _).trans knows.advertises

/-- The addresses worth walking to are those that were introduced. -/
theorem mem_walkable (knows : registry.Knows service introducer found)
    (elsewhere : introducer.wan ∉ found) (address : Address) :
    address ∈ registry.walkable (some service) ↔ address ∈ found := by
  rw [mem_walkable_some]
  constructor
  · rintro ⟨⟨entry, known, -⟩, free⟩
    by_cases listed : address ∈ found
    · exact listed
    · rw [knows.addresses, if_neg listed] at known
      split at known
      · rename_i there
        obtain ⟨peer, stored, contact⟩ := contact?_eq_some_iff.1
          ((knows.contacts introducer.memberId).trans (if_pos rfl))
        have place : peer.address = introducer.wan := congrArg Contact.address contact
        exact absurd (place.trans there)
          (free introducer.memberId peer stored knows.advertises)
      · cases known
  · intro listed
    refine ⟨⟨_, (knows.addresses address).trans (if_pos listed), ?_⟩, ?_⟩
    · simp [leadsTo]
    · intro member peer stored offers
      have contact := knows.contacts member
      rw [contact?_of_stored stored] at contact
      split at contact
      · have place : peer.address = introducer.wan :=
          congrArg Contact.address (Option.some.inj contact)
        rw [place]
        rintro rfl
        exact elsewhere listed
      · cases contact

theorem verify (service : ServiceId) {peer : Peer} (nobody : registry.verified = ∅)
    (nowhere : registry.addresses = ∅) (welcomes : registry.Welcomes peer)
    (contact : peer.contact = introducer.contact) :
    ((registry.verify peer).addServices introducer.memberId [service]).Knows service
      introducer [] where
  contacts member := by
    have stored := welcomes.contact?_verify (by simp [nobody]) member
    have before : registry.contact? member = none := by
      rw [contact?_eq_none_iff, nobody]
      simp
    rw [before, contact] at stored
    rw [← show peer.memberId = introducer.memberId from congrArg Contact.member contact]
    exact stored
  addresses address := by
    rw [addresses_addServices, getElem?_addresses_verify, nowhere,
      show peer.address = introducer.wan from congrArg Contact.address contact]
    have admitted := welcomes.admits
    rw [show peer.address = introducer.wan from congrArg Contact.address contact] at admitted
    by_cases here : introducer.wan = address
    · rw [if_pos ⟨here, admitted, welcomes.takes⟩, if_neg (by simp), if_pos here]
      simp
    · rw [if_neg (fun all => here all.1), if_neg (by simp), if_neg here]
      simp
  advertises := by
    rw [advertises_addServices]
    exact .inr ⟨rfl, List.mem_singleton_self service⟩

theorem discover (knows : registry.Knows service introducer found) {peer : Peer}
    (contact : peer.contact = introducer.contact) (welcomes : registry.Welcomes peer)
    {address : Address} (admitted : registry.admits address) (new : address ∉ found)
    (elsewhere : introducer.wan ≠ address) :
    (registry.discover peer address (some service)).Knows service introducer
      (found ++ [address]) := by
  have member : peer.memberId = introducer.memberId := congrArg Contact.member contact
  have place : peer.address = introducer.wan := congrArg Contact.address contact
  have unknown : registry.addresses[address]? = none := by
    rw [knows.addresses, if_neg new, if_neg elsewhere]
  have takes : registry.takesIntroduction address = true := by
    unfold takesIntroduction
    rw [unknown]
  have keyed : ∀ known : Peer, registry.verified[peer.memberId]? = some known →
      known.memberId = peer.memberId := by
    intro known stored
    have found := knows.contacts peer.memberId
    rw [contact?_of_stored stored, if_pos member.symm] at found
    exact (congrArg Contact.member (Option.some.inj found)).trans member.symm
  refine { contacts := ?_, addresses := ?_, advertises := ?_ }
  · intro other
    have before := knows.contacts other
    rw [welcomes.contact?_discover keyed, contact, member]
    by_cases same : introducer.memberId = other
    · rw [if_pos same, if_pos same]
    · rw [if_neg same] at before ⊢
      rw [if_neg same]
      exact before
  · intro other
    have recorded : (registry.introduced peer.memberId address (some service)).addresses[other]? =
        if other ∈ found ++ [address] then some ⟨some introducer.memberId, some service⟩
        else if introducer.wan = other then some .direct
        else none := by
      rw [getElem?_addresses_introduced, member, knows.addresses]
      by_cases here : address = other
      · subst here
        rw [if_pos ⟨rfl, admitted, takes⟩, if_pos (by simp)]
      · rw [if_neg (fun all => here all.1)]
        simp [Ne.symm here]
    rw [discover_eq, getElem?_addresses_verify, recorded]
    split
    · rename_i own
      rw [place] at own
      by_cases present : other ∈ found ++ [address]
      · rw [if_pos present]
        rfl
      · rw [if_neg present, if_pos own.1]
        rfl
    · rfl
  · rw [advertises_congr (registry.services_discover _ _ _)]
    exact knows.advertises

end Knows

end Registry

end PeerDiscovery
