import PeerDiscovery.Proofs.Registry.Verification
import PeerDiscovery.Registry.Query

/-!
# Services, questions and removal

What a look-up finds after services are added, addresses and members are
forgotten, clocks move on and marks are set; and which addresses are walkable.
Marks stand apart: an operation that only sets them leaves a registry that is
the `SameButMarks`.
-/

namespace PeerDiscovery

namespace Registry

variable (registry : Registry)

private theorem mem_foldl_insert (services : List ServiceId)
    (known : Std.ExtTreeSet ServiceId) (service : ServiceId) :
    service ∈ services.foldl (fun known service => known.insert service) known ↔
      service ∈ known ∨ service ∈ services := by
  induction services generalizing known with
  | nil => simp
  | cons first others ih =>
    simp only [List.foldl_cons, ih, Std.ExtTreeSet.mem_insert,
      Std.LawfulEqCmp.compare_eq_iff_eq, List.mem_cons]
    grind

theorem advertises_addServices (member other : MemberId) (services : List ServiceId)
    (service : ServiceId) :
    (registry.addServices member services).advertises other service = true ↔
      registry.advertises other service = true ∨ member = other ∧ service ∈ services := by
  unfold advertises
  by_cases same : member = other
  · subst same
    simp [addServices, servicesOf, mem_foldl_insert]
  · simp [addServices, servicesOf, Std.ExtTreeMap.getD_insert, same]

theorem getElem?_services_addServices (member other : MemberId) (services : List ServiceId) :
    (registry.addServices member services).services[other]? =
      if member = other then
        some (services.foldl (fun known service => known.insert service)
          (registry.services[member]?.getD ∅))
      else registry.services[other]? := by
  simp [addServices, servicesOf, Std.ExtTreeMap.getElem?_insert,
    Std.ExtTreeMap.getD_eq_getD_getElem?]

theorem advertises_congr {registry other : Registry}
    (sameServices : registry.services = other.services)
    (member : MemberId) (service : ServiceId) :
    registry.advertises member service = other.advertises member service := by
  simp only [advertises, servicesOf, sameServices]

@[simp]
theorem addresses_addServices (member : MemberId) (services : List ServiceId) :
    (registry.addServices member services).addresses = registry.addresses := rfl

@[simp]
theorem verified_addServices (member : MemberId) (services : List ServiceId) :
    (registry.addServices member services).verified = registry.verified := rfl

@[simp]
theorem blockedAddresses_addServices (member : MemberId) (services : List ServiceId) :
    (registry.addServices member services).blockedAddresses = registry.blockedAddresses := rfl

@[simp]
theorem blockedMembers_addServices (member : MemberId) (services : List ServiceId) :
    (registry.addServices member services).blockedMembers = registry.blockedMembers := rfl

@[simp]
theorem mem_peers {member : MemberId} {peer : Peer} :
    (member, peer) ∈ registry.peers ↔ registry.verified[member]? = some peer :=
  Std.ExtTreeMap.mem_toList_iff_getElem?_eq_some

theorem isOccupied_iff (address : Address) :
    registry.isOccupied address = true ↔
      ∃ (member : MemberId) (peer : Peer),
        registry.verified[member]? = some peer ∧ peer.address = address := by
  simp only [isOccupied, List.any_eq_true, Prod.exists, beq_iff_eq,
    Std.ExtTreeMap.mem_toList_iff_getElem?_eq_some]

theorem peerAt?_eq_some {address : Address} {member : MemberId} {peer : Peer}
    (found : registry.peerAt? address = some (member, peer)) :
    registry.verified[member]? = some peer ∧ peer.address = address := by
  have stored := List.mem_of_find?_eq_some found
  have there := List.find?_some found
  exact ⟨registry.mem_peers.1 stored, by simpa using there⟩

theorem exists_peerAt? {member : MemberId} {peer : Peer}
    (stored : registry.verified[member]? = some peer) :
    ∃ found, registry.peerAt? peer.address = some found := by
  rw [← Option.isSome_iff_exists, peerAt?, List.find?_isSome]
  exact ⟨(member, peer), registry.mem_peers.2 stored, by simp⟩

theorem mem_walkable_none (address : Address) :
    address ∈ registry.walkable none ↔
      address ∈ registry.addresses ∧
        ∀ (member : MemberId) (peer : Peer), registry.verified[member]? = some peer →
          peer.address ≠ address := by
  simp only [walkable, peersForAny, leadsTo, Bool.and_true, List.mem_map, List.mem_filter,
    Bool.not_eq_true', Prod.exists, exists_and_right, exists_eq_right,
    Std.ExtTreeMap.mem_toList_iff_getElem?_eq_some, ← Bool.not_eq_true, List.contains_iff_mem,
    not_exists, not_and, mem_peers, Std.ExtTreeMap.mem_iff_isSome_getElem?,
    Option.isSome_iff_exists]

theorem mem_peersFor {service : ServiceId} {member : MemberId} {peer : Peer} :
    (member, peer) ∈ registry.peersFor service ↔
      registry.verified[member]? = some peer ∧ registry.advertises member service = true := by
  simp [peersFor]

theorem mem_walkable_some (service : ServiceId) (address : Address) :
    address ∈ registry.walkable (some service) ↔
      (∃ entry, registry.addresses[address]? = some entry ∧
        registry.leadsTo entry (some service) = true) ∧
        ∀ (member : MemberId) (peer : Peer), registry.verified[member]? = some peer →
          registry.advertises member service = true → peer.address ≠ address := by
  simp only [walkable, peersForAny, List.mem_map, List.mem_filter, Bool.and_eq_true,
    Bool.not_eq_true', Prod.exists, exists_and_right, exists_eq_right,
    Std.ExtTreeMap.mem_toList_iff_getElem?_eq_some, ← Bool.not_eq_true, List.contains_iff_mem,
    not_exists, not_and, mem_peersFor]
  grind

theorem mem_addresses_forgetAddress (address other : Address) :
    other ∈ (registry.forgetAddress address).addresses ↔
      other ∈ registry.addresses ∧ address ≠ other := by
  simp [forgetAddress, and_comm]

theorem getElem?_verified_forgetAddress (address : Address) (member : MemberId) (peer : Peer) :
    (registry.forgetAddress address).verified[member]? = some peer ↔
      registry.verified[member]? = some peer ∧
        (address = .empty ∨ peer.address ≠ address) := by
  unfold forgetAddress
  by_cases vacant : address = .empty
  · simp [vacant]
  · simp only [Address.isEmpty_iff, vacant, if_false, Std.ExtTreeMap.getElem?_filter',
      Option.filter_eq_some_iff, bne_iff_ne, false_or]

theorem verified_forgetPeer (member : MemberId) :
    (registry.forgetPeer member).verified = registry.verified.erase member := by
  unfold forgetPeer
  cases registry.verified[member]? with
  | none => rfl
  | some peer => dsimp only; split <;> rfl

theorem getElem?_verified_forgetPeer (member other : MemberId) :
    (registry.forgetPeer member).verified[other]? =
      if member = other then none else registry.verified[other]? := by
  simp [verified_forgetPeer, Std.ExtTreeMap.getElem?_erase]

theorem services_forgetPeer (member : MemberId) :
    (registry.forgetPeer member).services = registry.services.erase member := by
  unfold forgetPeer
  cases registry.verified[member]? with
  | none => rfl
  | some peer => dsimp only; split <;> rfl

@[simp]
theorem blockedAddresses_forgetPeer (member : MemberId) :
    (registry.forgetPeer member).blockedAddresses = registry.blockedAddresses := by
  unfold forgetPeer
  cases registry.verified[member]? with
  | none => rfl
  | some peer => dsimp only; split <;> rfl

@[simp]
theorem blockedMembers_forgetPeer (member : MemberId) :
    (registry.forgetPeer member).blockedMembers = registry.blockedMembers := by
  unfold forgetPeer
  cases registry.verified[member]? with
  | none => rfl
  | some peer => dsimp only; split <;> rfl

/-- With a member goes the address it was the last one at. -/
theorem mem_addresses_forgetPeer (member : MemberId) (address : Address) :
    address ∈ (registry.forgetPeer member).addresses ↔
      address ∈ registry.addresses ∧
        ∀ peer : Peer, registry.verified[member]? = some peer → peer.address = address →
          ∃ (other : MemberId) (remaining : Peer), other ≠ member ∧
            registry.verified[other]? = some remaining ∧ remaining.address = address := by
  have occupied : ∀ place : Address,
      ({ registry with
          verified := registry.verified.erase member
          services := registry.services.erase member } : Registry).isOccupied place = true ↔
        ∃ (other : MemberId) (remaining : Peer), other ≠ member ∧
          registry.verified[other]? = some remaining ∧ remaining.address = place := by
    intro place
    simp only [isOccupied_iff, Std.ExtTreeMap.getElem?_erase, Std.LawfulEqCmp.compare_eq_iff_eq]
    constructor
    · rintro ⟨other, remaining, stored, there⟩
      by_cases same : member = other
      · simp [same] at stored
      · exact ⟨other, remaining, Ne.symm same, by simpa [same] using stored, there⟩
    · rintro ⟨other, remaining, differs, stored, there⟩
      exact ⟨other, remaining, by simpa [Ne.symm differs] using stored, there⟩
  unfold forgetPeer
  cases found : registry.verified[member]? with
  | none => simp
  | some peer =>
    dsimp only
    split
    · rename_i shared
      rw [occupied] at shared
      constructor
      · intro known
        refine ⟨known, ?_⟩
        rintro _ ⟨⟩ rfl
        exact shared
      · exact And.left
    · rename_i alone
      rw [occupied] at alone
      simp only [Std.ExtTreeMap.mem_erase, ne_eq, Std.LawfulEqCmp.compare_eq_iff_eq]
      constructor
      · rintro ⟨elsewhere, known⟩
        refine ⟨known, ?_⟩
        rintro _ ⟨⟩ there
        exact absurd there elsewhere
      · rintro ⟨known, shared⟩
        refine ⟨?_, known⟩
        rintro rfl
        exact alone (shared peer rfl rfl)

theorem foldl_blockAddress_eq (listed : List Address) :
    listed.foldl Registry.blockAddress registry =
      { registry with
        blockedAddresses := (listed.foldl Registry.blockAddress registry).blockedAddresses } := by
  induction listed generalizing registry with
  | nil => rfl
  | cons address others ih =>
      rw [List.foldl_cons, ih]
      rfl

theorem isBlocked_foldl_blockAddress (listed : List Address) (address : Address) :
    (listed.foldl Registry.blockAddress registry).isBlocked address = true ↔
      registry.isBlocked address = true ∨ address ∈ listed := by
  induction listed generalizing registry with
  | nil => simp
  | cons first others ih =>
      have blocked : (registry.blockAddress first).isBlocked address = true ↔
          registry.isBlocked address = true ∨ address = first := by
        simp only [isBlocked, blockAddress, Std.ExtTreeSet.contains_insert, Bool.or_eq_true,
          beq_iff_eq, Std.LawfulEqCmp.compare_eq_iff_eq]
        constructor
        · rintro (rfl | before)
          · exact .inr rfl
          · exact .inl before
        · rintro (before | rfl)
          · exact .inr before
          · exact .inl rfl
      rw [List.foldl_cons, ih, blocked, List.mem_cons, or_assoc]

theorem getElem?_verified_updateClock (member other : MemberId) (time : UInt64)
    (now : Instant) :
    (registry.updateClock member time now).verified[other]? =
      if member = other then registry.verified[other]?.map (·.updateClock time now)
      else registry.verified[other]? := by
  unfold updateClock
  by_cases same : member = other
  · subst same
    cases found : registry.verified[member]? <;> simp [found]
  · cases registry.verified[member]? <;> simp [same]

@[simp]
theorem addresses_updateClock (member : MemberId) (time : UInt64) (now : Instant) :
    (registry.updateClock member time now).addresses = registry.addresses := by
  unfold updateClock; split <;> rfl

@[simp]
theorem services_updateClock (member : MemberId) (time : UInt64) (now : Instant) :
    (registry.updateClock member time now).services = registry.services := by
  unfold updateClock; split <;> rfl

@[simp]
theorem blockedAddresses_updateClock (member : MemberId) (time : UInt64) (now : Instant) :
    (registry.updateClock member time now).blockedAddresses = registry.blockedAddresses := by
  unfold updateClock; split <;> rfl

@[simp]
theorem blockedMembers_updateClock (member : MemberId) (time : UInt64) (now : Instant) :
    (registry.updateClock member time now).blockedMembers = registry.blockedMembers := by
  unfold updateClock; split <;> rfl

/-- Two registries that differ in nothing but the marks of peers. -/
structure SameButMarks (registry other : Registry) : Prop where
  addresses : other.addresses = registry.addresses
  services : other.services = registry.services
  blockedAddresses : other.blockedAddresses = registry.blockedAddresses
  blockedMembers : other.blockedMembers = registry.blockedMembers
  verified : ∀ member : MemberId,
    other.verified[member]?.map Peer.unmarked = registry.verified[member]?.map Peer.unmarked

namespace SameButMarks

theorem refl (registry : Registry) : SameButMarks registry registry :=
  ⟨rfl, rfl, rfl, rfl, fun _ => rfl⟩

theorem trans {first second third : Registry} (left : SameButMarks first second)
    (right : SameButMarks second third) : SameButMarks first third where
  addresses := right.addresses.trans left.addresses
  services := right.services.trans left.services
  blockedAddresses := right.blockedAddresses.trans left.blockedAddresses
  blockedMembers := right.blockedMembers.trans left.blockedMembers
  verified member := (right.verified member).trans (left.verified member)

/-- Each record stems from one that differs in marks only. -/
theorem exists_unmarked {registry other : Registry} (same : SameButMarks registry other)
    {member : MemberId} {peer : Peer} (stored : other.verified[member]? = some peer) :
    ∃ before : Peer, registry.verified[member]? = some before ∧
      before.unmarked = peer.unmarked := by
  have both := same.verified member
  rw [stored, Option.map_some, eq_comm, Option.map_eq_some_iff] at both
  exact both

end SameButMarks

theorem sameButMarks_setPeer {member : MemberId} {peer marked : Peer}
    (stored : registry.verified[member]? = some peer)
    (marksOnly : marked.unmarked = peer.unmarked) :
    SameButMarks registry (registry.setPeer member marked) where
  addresses := rfl
  services := rfl
  blockedAddresses := rfl
  blockedMembers := rfl
  verified other := by
    by_cases same : member = other
    · subst same
      simp [stored, marksOnly]
    · simp [same]

theorem sameButMarks_markHeard (address : Address) (now : Instant) :
    SameButMarks registry (registry.markHeard address now) := by
  unfold markHeard
  split
  · rename_i member peer found
    exact registry.sameButMarks_setPeer (registry.peerAt?_eq_some found).1 rfl
  · exact .refl registry

theorem sameButMarks_markSent (address : Address) (now : Instant) :
    SameButMarks registry (registry.markSent address now) := by
  unfold markSent
  split
  · rename_i member peer found
    exact registry.sameButMarks_setPeer (registry.peerAt?_eq_some found).1 rfl
  · exact .refl registry

end Registry

end PeerDiscovery
