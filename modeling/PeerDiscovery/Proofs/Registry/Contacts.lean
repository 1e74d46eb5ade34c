import PeerDiscovery.Proofs.Registry.Records

/-!
# Contacts

The contact of a peer is what its record says about who it is and where it is
found; clocks and marks come and go without changing it.  Verifying a peer that
nothing speaks against stores its contact, whatever was stored before.
-/

namespace PeerDiscovery

@[ext]
structure Contact where
  member : MemberId
  address : Address
  lan : Address
  wan : Address
deriving DecidableEq

namespace Peer

def contact (peer : Peer) : Contact := ⟨peer.memberId, peer.address, peer.lan, peer.wan⟩

end Peer

namespace Registry

def contact? (registry : Registry) (member : MemberId) : Option Contact :=
  registry.verified[member]?.map Peer.contact

theorem contact?_eq_some_iff {registry : Registry} {member : MemberId} {contact : Contact} :
    registry.contact? member = some contact ↔
      ∃ peer : Peer, registry.verified[member]? = some peer ∧ peer.contact = contact :=
  Option.map_eq_some_iff

theorem contact?_of_stored {registry : Registry} {member : MemberId} {peer : Peer}
    (stored : registry.verified[member]? = some peer) :
    registry.contact? member = some peer.contact :=
  contact?_eq_some_iff.2 ⟨peer, stored, rfl⟩

theorem contact?_eq_none_iff {registry : Registry} {member : MemberId} :
    registry.contact? member = none ↔ registry.verified[member]? = none :=
  Option.map_eq_none_iff

/-- Two registries that differ in nothing but clocks and marks. -/
structure SameContacts (registry other : Registry) : Prop where
  addresses : other.addresses = registry.addresses
  services : other.services = registry.services
  blockedAddresses : other.blockedAddresses = registry.blockedAddresses
  blockedMembers : other.blockedMembers = registry.blockedMembers
  contacts : ∀ member : MemberId, other.contact? member = registry.contact? member

namespace SameContacts

theorem trans {first second third : Registry} (left : SameContacts first second)
    (right : SameContacts second third) : SameContacts first third where
  addresses := right.addresses.trans left.addresses
  services := right.services.trans left.services
  blockedAddresses := right.blockedAddresses.trans left.blockedAddresses
  blockedMembers := right.blockedMembers.trans left.blockedMembers
  contacts member := (right.contacts member).trans (left.contacts member)

theorem of_sameButMarks {registry other : Registry} (same : SameButMarks registry other) :
    SameContacts registry other where
  addresses := same.addresses
  services := same.services
  blockedAddresses := same.blockedAddresses
  blockedMembers := same.blockedMembers
  contacts member := by
    have both := congrArg (Option.map Peer.contact) (same.verified member)
    rw [Option.map_map, Option.map_map] at both
    exact both

theorem updateClock (registry : Registry) (member : MemberId) (time : UInt64) (now : Instant) :
    SameContacts registry (registry.updateClock member time now) where
  addresses := registry.addresses_updateClock member time now
  services := registry.services_updateClock member time now
  blockedAddresses := registry.blockedAddresses_updateClock member time now
  blockedMembers := registry.blockedMembers_updateClock member time now
  contacts other := by
    unfold contact?
    rw [getElem?_verified_updateClock]
    split
    · rw [Option.map_map]
      rfl
    · rfl

theorem verified_eq_empty {registry other : Registry} (same : SameContacts registry other)
    (nobody : registry.verified = ∅) : other.verified = ∅ := by
  refine Std.ExtTreeMap.ext_getElem? fun member => ?_
  have before : registry.contact? member = none := by
    rw [contact?_eq_none_iff, nobody]
    simp
  rw [← same.contacts, contact?_eq_none_iff] at before
  rw [before]
  simp

end SameContacts

/-- A peer that nothing speaks against: not blocked, and with addresses of all
kinds. -/
structure Welcomes (registry : Registry) (peer : Peer) : Prop where
  member : registry.blockedMembers.contains peer.memberId = false
  unblocked : registry.isBlocked peer.address = false
  address : peer.address ≠ .empty
  lan : peer.lan ≠ .empty
  wan : peer.wan ≠ .empty

namespace Welcomes

variable {registry : Registry} {peer : Peer}

theorem takes (welcomes : Welcomes registry peer) : registry.takes peer :=
  ⟨welcomes.member, .inr (.inr (.inr welcomes.unblocked))⟩

theorem admits (welcomes : Welcomes registry peer) : registry.admits peer.address :=
  ⟨welcomes.address, welcomes.unblocked⟩

/-- The stored record has the contact of the peer: every address is newer. -/
theorem contact_recordOf (welcomes : Welcomes registry peer)
    (keyed : ∀ known : Peer, registry.verified[peer.memberId]? = some known →
      known.memberId = peer.memberId) :
    (registry.recordOf peer).contact = peer.contact := by
  unfold recordOf
  cases found : registry.verified[peer.memberId]? with
  | none => rfl
  | some known =>
      have unscreened : registry.screened peer = peer := by
        unfold screened
        rw [if_neg (by rw [welcomes.unblocked]; decide)]
      dsimp only
      rw [unscreened]
      refine Contact.ext (keyed known found) ?_ ?_ ?_
      · exact (Peer.newerAddress_eq _ _).trans (if_neg welcomes.address)
      · exact (Peer.newerAddress_eq _ _).trans (if_neg welcomes.lan)
      · exact (Peer.newerAddress_eq _ _).trans (if_neg welcomes.wan)

theorem contact?_verify (welcomes : Welcomes registry peer)
    (keyed : ∀ known : Peer, registry.verified[peer.memberId]? = some known →
      known.memberId = peer.memberId) (member : MemberId) :
    (registry.verify peer).contact? member =
      if peer.memberId = member then some peer.contact else registry.contact? member := by
  unfold contact?
  rw [getElem?_verified_verify]
  by_cases same : peer.memberId = member
  · rw [if_pos ⟨same, welcomes.takes⟩, if_pos same, Option.map_some,
      welcomes.contact_recordOf keyed]
  · rw [if_neg (fun both => same both.1), if_neg same]

theorem introduced (welcomes : Welcomes registry peer) (introducer : MemberId)
    (address : Address) (service : Option ServiceId) :
    Welcomes (registry.introduced introducer address service) peer where
  member := by
    rw [blockedMembers_introduced]
    exact welcomes.member
  unblocked := by
    rw [isBlocked_introduced]
    exact welcomes.unblocked
  address := welcomes.address
  lan := welcomes.lan
  wan := welcomes.wan

/-- An introducer is verified whatever it introduces. -/
theorem contact?_discover (welcomes : Welcomes registry peer)
    (keyed : ∀ known : Peer, registry.verified[peer.memberId]? = some known →
      known.memberId = peer.memberId) (address : Address) (service : Option ServiceId)
    (member : MemberId) :
    (registry.discover peer address service).contact? member =
      if peer.memberId = member then some peer.contact else registry.contact? member := by
  have keyedThen : ∀ known : Peer,
      (registry.introduced peer.memberId address service).verified[peer.memberId]? = some known →
      known.memberId = peer.memberId := by
    rw [verified_introduced]
    exact keyed
  rw [discover_eq, (welcomes.introduced _ address service).contact?_verify keyedThen]
  unfold contact?
  rw [verified_introduced]

end Welcomes

/-- A list of pairs with different keys whose only key occurs. -/
private theorem eq_singleton_of_key {Key Value : Type} {pairs : List (Key × Value)}
    (distinct : pairs.Pairwise fun left right => left.1 ≠ right.1) {key : Key} {value : Value}
    (listed : (key, value) ∈ pairs) (alone : ∀ pair ∈ pairs, pair.1 = key) :
    pairs = [(key, value)] := by
  cases pairs with
  | nil => cases listed
  | cons first others =>
      have nobodyElse : others = [] := by
        rw [List.eq_nil_iff_forall_not_mem]
        intro other more
        have differs := (List.pairwise_cons.1 distinct).1 other more
        exact differs ((alone first (by simp)).trans
          (alone other (List.mem_cons_of_mem first more)).symm)
      rw [nobodyElse] at listed ⊢
      rw [List.mem_singleton.1 listed]

theorem pairwise_peersFor (registry : Registry) (service : ServiceId) :
    (registry.peersFor service).Pairwise fun left right => left.1 ≠ right.1 := by
  have distinct := Std.ExtTreeMap.distinct_keys_toList (t := registry.verified)
  refine List.Pairwise.filter _ (distinct.imp ?_)
  intro left right differs same
  exact differs (Std.LawfulEqCmp.compare_eq_iff_eq.2 same)

/-- When all peers of a service but one are filtered out, that one remains. -/
theorem filter_peersFor_eq (registry : Registry) (service : ServiceId)
    (keeps : MemberId × Peer → Bool) {member : MemberId} {peer : Peer}
    (stored : registry.verified[member]? = some peer)
    (advertises : registry.advertises member service = true)
    (kept : keeps (member, peer) = true)
    (alone : ∀ (other : MemberId) (record : Peer), registry.verified[other]? = some record →
      registry.advertises other service = true → keeps (other, record) = true →
      other = member) :
    (registry.peersFor service).filter keeps = [(member, peer)] := by
  refine eq_singleton_of_key ((registry.pairwise_peersFor service).filter _) ?_ ?_
  · rw [List.mem_filter]
    exact ⟨registry.mem_peersFor.2 ⟨stored, advertises⟩, kept⟩
  · rintro ⟨other, record⟩ listed
    obtain ⟨peers, passes⟩ := List.mem_filter.1 listed
    obtain ⟨known, offered⟩ := registry.mem_peersFor.1 peers
    exact alone other record known offered passes

end Registry

end PeerDiscovery
