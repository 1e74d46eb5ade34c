import PeerDiscovery.Registry.Basic

/-!
# What verifying and introducing do to the registry

Each operation is described by what a look-up finds afterwards.  Verifying a
peer has many cases: it is brought into a single form, in which the registry
either stays as it is or remembers the peer's address and stores one record.
Introducing an address is recording it, and then verifying the introducer.
-/

namespace PeerDiscovery

namespace Address

@[simp]
theorem isEmpty_iff (address : Address) : address.isEmpty = true ↔ address = .empty := by
  simp [isEmpty]

@[simp]
theorem isEmpty_eq_false_iff (address : Address) :
    address.isEmpty = false ↔ address ≠ .empty := by
  simp [isEmpty]

end Address

namespace Peer

/-- The peer without the marks of when it was sent to and heard from. -/
def unmarked (peer : Peer) : Peer := { peer with lastRequest := none, lastResponse := none }

@[simp]
theorem memberId_unmarked (peer : Peer) : peer.unmarked.memberId = peer.memberId := rfl

@[simp]
theorem address_unmarked (peer : Peer) : peer.unmarked.address = peer.address := rfl

@[simp]
theorem memberId_merge (known observed : Peer) :
    (known.merge observed).memberId = known.memberId := rfl

@[simp]
theorem memberId_updateClock (peer : Peer) (time : UInt64) (now : Instant) :
    (peer.updateClock time now).memberId = peer.memberId := rfl

@[simp]
theorem memberId_reporting (peer : Peer) (lan wan : Address) :
    (peer.reporting lan wan).memberId = peer.memberId := rfl

theorem newerAddress_eq (known observed : Address) :
    newerAddress known observed = if observed = .empty then known else observed := by
  simp only [newerAddress, Address.isEmpty_iff]

theorem newerAddress_cases (known observed : Address) :
    newerAddress known observed = known ∨
      newerAddress known observed = observed ∧ observed ≠ .empty := by
  by_cases vacant : observed = .empty
  · exact .inl (by simp [newerAddress_eq, vacant])
  · exact .inr ⟨by simp [newerAddress_eq, vacant], vacant⟩

theorem newerAddress_induction {motive : Address → Prop} {known observed : Address}
    (before : motive known) (newer : observed ≠ .empty → motive observed) :
    motive (newerAddress known observed) := by
  rcases newerAddress_cases known observed with stays | ⟨moves, nonempty⟩
  · rw [stays]
    exact before
  · rw [moves]
    exact newer nonempty

end Peer

namespace Registry

variable (registry : Registry)

/-- Whether an address may become known. -/
def admits (address : Address) : Prop :=
  address ≠ .empty ∧ registry.isBlocked address = false

instance (address : Address) : Decidable (registry.admits address) :=
  inferInstanceAs (Decidable (_ ∧ _))

variable {registry} in
theorem admits_congr {next : Registry}
    (same : next.blockedAddresses = registry.blockedAddresses) {address : Address} :
    next.admits address ↔ registry.admits address := by
  unfold admits isBlocked
  rw [same]

theorem rememberAddress_eq (address : Address) :
    registry.rememberAddress address =
      if registry.admits address then
        { registry with addresses := registry.addresses.insertIfNew address .direct }
      else registry := by
  unfold rememberAddress admits
  by_cases vacant : address = .empty
  · simp [vacant]
  · by_cases blocked : registry.isBlocked address = true <;> simp [vacant, blocked]

@[simp]
theorem verified_rememberAddress (address : Address) :
    (registry.rememberAddress address).verified = registry.verified := by
  rw [rememberAddress_eq]; split <;> rfl

@[simp]
theorem services_rememberAddress (address : Address) :
    (registry.rememberAddress address).services = registry.services := by
  rw [rememberAddress_eq]; split <;> rfl

@[simp]
theorem blockedAddresses_rememberAddress (address : Address) :
    (registry.rememberAddress address).blockedAddresses = registry.blockedAddresses := by
  rw [rememberAddress_eq]; split <;> rfl

@[simp]
theorem blockedMembers_rememberAddress (address : Address) :
    (registry.rememberAddress address).blockedMembers = registry.blockedMembers := by
  rw [rememberAddress_eq]; split <;> rfl

/-- An address seen directly keeps the entry it has. -/
theorem getElem?_addresses_rememberAddress (address other : Address) :
    (registry.rememberAddress address).addresses[other]? =
      if address = other ∧ registry.admits address then
        some (registry.addresses[other]?.getD .direct)
      else registry.addresses[other]? := by
  rw [rememberAddress_eq]
  by_cases admitted : registry.admits address
  · by_cases same : address = other
    · subst same
      rw [if_pos admitted, if_pos ⟨rfl, admitted⟩, Std.ExtTreeMap.getElem?_insertIfNew]
      cases entry : registry.addresses[address]? <;>
        simp [Std.ExtTreeMap.mem_iff_isSome_getElem?, entry]
    · rw [if_pos admitted, if_neg (fun both => same both.1),
        Std.ExtTreeMap.getElem?_insertIfNew]
      simp [same]
  · rw [if_neg admitted, if_neg (fun both => admitted both.2)]

theorem mem_addresses_rememberAddress (address other : Address) :
    other ∈ (registry.rememberAddress address).addresses ↔
      other ∈ registry.addresses ∨ address = other ∧ registry.admits address := by
  simp only [Std.ExtTreeMap.mem_iff_isSome_getElem?, getElem?_addresses_rememberAddress]
  split
  · rename_i here
    simp [here.1, here.1 ▸ here.2]
  · rename_i elsewhere
    simp [elsewhere]

@[simp]
theorem getElem?_verified_setPeer (member other : MemberId) (peer : Peer) :
    (registry.setPeer member peer).verified[other]? =
      if member = other then some peer else registry.verified[other]? := by
  simp [setPeer, Std.ExtTreeMap.getElem?_insert]

@[simp]
theorem addresses_setPeer (member : MemberId) (peer : Peer) :
    (registry.setPeer member peer).addresses = registry.addresses := rfl

@[simp]
theorem services_setPeer (member : MemberId) (peer : Peer) :
    (registry.setPeer member peer).services = registry.services := rfl

@[simp]
theorem blockedAddresses_setPeer (member : MemberId) (peer : Peer) :
    (registry.setPeer member peer).blockedAddresses = registry.blockedAddresses := rfl

@[simp]
theorem blockedMembers_setPeer (member : MemberId) (peer : Peer) :
    (registry.setPeer member peer).blockedMembers = registry.blockedMembers := rfl

/-- What a record says of a peer when it stands in a registry: a blocked address
counts as none. -/
def screened (peer : Peer) : Peer :=
  if registry.isBlocked peer.address then { peer with address := .empty } else peer

theorem address_screened (peer : Peer) :
    (registry.screened peer).address = .empty ∨
      (registry.screened peer).address = peer.address ∧
        registry.isBlocked peer.address = false := by
  unfold screened
  split
  · exact .inl rfl
  · rename_i unblocked
    exact .inr ⟨rfl, by simpa using unblocked⟩

theorem screened_eq (peer : Peer) :
    registry.screened peer = { peer with address := (registry.screened peer).address } := by
  unfold screened; split <;> rfl

/-- Whether verifying a peer leaves a record of it. -/
def takes (peer : Peer) : Prop :=
  registry.blockedMembers.contains peer.memberId = false ∧
    (peer.memberId ∈ registry.verified ∨ peer.address ∈ registry.addresses ∨
      peer.address = .empty ∨ registry.isBlocked peer.address = false)

instance (peer : Peer) : Decidable (registry.takes peer) :=
  inferInstanceAs (Decidable (_ ∧ _))

/-- The record that verifying a peer leaves. -/
def recordOf (peer : Peer) : Peer :=
  match registry.verified[peer.memberId]? with
  | some known => known.merge (registry.screened peer)
  | none => peer

/-- A peer that is refused changes nothing; any other one has its address
remembered and its record stored. -/
theorem verify_eq (peer : Peer) :
    registry.verify peer =
      if registry.takes peer then
        (registry.rememberAddress peer.address).setPeer peer.memberId (registry.recordOf peer)
      else registry := by
  unfold verify takes recordOf screened
  by_cases blocked : registry.blockedMembers.contains peer.memberId = true
  · simp [blocked]
  simp only [Bool.not_eq_true] at blocked
  cases found : registry.verified[peer.memberId]? with
  | some known =>
    have member : peer.memberId ∈ registry.verified := by
      simp [Std.ExtTreeMap.mem_iff_isSome_getElem?, found]
    refine Eq.trans ?_ (if_pos ⟨blocked, .inl member⟩).symm
    by_cases barred : registry.isBlocked peer.address = true
    · -- a blocked address is remembered neither as itself nor as the empty one
      simp [blocked, found, barred, rememberAddress_eq, admits]
    · simp [blocked, found, barred]
  | none =>
    have stranger : peer.memberId ∉ registry.verified := by
      simp [Std.ExtTreeMap.mem_iff_isSome_getElem?, found]
    by_cases known : peer.address ∈ registry.addresses
    · have kept : registry.addresses.insertIfNew peer.address .direct = registry.addresses := by
        ext other entry
        simp only [Std.ExtTreeMap.getElem?_insertIfNew]
        grind
      simp [blocked, stranger, known, rememberAddress_eq, kept]
    · by_cases vacant : peer.address = .empty
      · simp [blocked, stranger, vacant, rememberAddress_eq, admits]
      · by_cases barred : registry.isBlocked peer.address = true <;>
          simp [blocked, stranger, known, vacant, barred]

theorem getElem?_verified_verify (peer : Peer) (member : MemberId) :
    (registry.verify peer).verified[member]? =
      if peer.memberId = member ∧ registry.takes peer then some (registry.recordOf peer)
      else registry.verified[member]? := by
  rw [verify_eq]
  by_cases taken : registry.takes peer
  · simp [taken]
  · simp [taken]

theorem getElem?_addresses_verify (peer : Peer) (address : Address) :
    (registry.verify peer).addresses[address]? =
      if peer.address = address ∧ registry.admits peer.address ∧ registry.takes peer then
        some (registry.addresses[address]?.getD .direct)
      else registry.addresses[address]? := by
  rw [verify_eq]
  by_cases taken : registry.takes peer
  · simp only [taken, if_true, addresses_setPeer, getElem?_addresses_rememberAddress, and_true]
  · simp [taken]

theorem mem_addresses_verify (peer : Peer) (address : Address) :
    address ∈ (registry.verify peer).addresses ↔
      address ∈ registry.addresses ∨
        peer.address = address ∧ registry.admits peer.address ∧ registry.takes peer := by
  rw [verify_eq]
  by_cases taken : registry.takes peer
  · simp [taken, mem_addresses_rememberAddress]
  · simp [taken]

@[simp]
theorem services_verify (peer : Peer) :
    (registry.verify peer).services = registry.services := by
  rw [verify_eq]; split <;> simp

@[simp]
theorem blockedAddresses_verify (peer : Peer) :
    (registry.verify peer).blockedAddresses = registry.blockedAddresses := by
  rw [verify_eq]; split <;> simp

@[simp]
theorem blockedMembers_verify (peer : Peer) :
    (registry.verify peer).blockedMembers = registry.blockedMembers := by
  rw [verify_eq]; split <;> simp

/-- The registry with an introduction recorded, before the introducer itself is
verified. -/
def introduced (introducer : MemberId) (address : Address) (service : Option ServiceId) :
    Registry :=
  if registry.admits address ∧ registry.takesIntroduction address = true then
    { registry with addresses := registry.addresses.insert address ⟨some introducer, service⟩ }
  else registry

theorem discover_eq (peer : Peer) (address : Address) (service : Option ServiceId) :
    registry.discover peer address service =
      (registry.introduced peer.memberId address service).verify peer := by
  unfold discover introduced admits
  simp only [Bool.and_eq_true, Bool.not_eq_true', Address.isEmpty_eq_false_iff]
  congr 1
  simp only [and_comm (a := address ≠ .empty)]

theorem mem_addresses_of_not_takesIntroduction {address : Address}
    (kept : registry.takesIntroduction address = false) : address ∈ registry.addresses := by
  unfold takesIntroduction at kept
  split at kept
  · cases kept
  · rename_i entry found
    simp [Std.ExtTreeMap.mem_iff_isSome_getElem?, found]

theorem getElem?_addresses_introduced (introducer : MemberId) (address other : Address)
    (service : Option ServiceId) :
    (registry.introduced introducer address service).addresses[other]? =
      if address = other ∧ registry.admits address ∧
          registry.takesIntroduction address = true then
        some ⟨some introducer, service⟩
      else registry.addresses[other]? := by
  unfold introduced
  by_cases recorded : registry.admits address ∧ registry.takesIntroduction address = true
  · simp [recorded, Std.ExtTreeMap.getElem?_insert]
  · simp [recorded]

theorem mem_addresses_introduced (introducer : MemberId) (address other : Address)
    (service : Option ServiceId) :
    other ∈ (registry.introduced introducer address service).addresses ↔
      other ∈ registry.addresses ∨ address = other ∧ registry.admits address := by
  unfold introduced
  by_cases admitted : registry.admits address
  · cases taken : registry.takesIntroduction address with
    | true => simp [admitted, or_comm]
    | false =>
      have known := registry.mem_addresses_of_not_takesIntroduction taken
      simp only [Bool.false_eq_true, and_false, if_false]
      constructor
      · exact .inl
      · rintro (before | ⟨rfl, -⟩)
        · exact before
        · exact known
  · simp [admitted]

@[simp]
theorem verified_introduced (introducer : MemberId) (address : Address)
    (service : Option ServiceId) :
    (registry.introduced introducer address service).verified = registry.verified := by
  unfold introduced; split <;> rfl

@[simp]
theorem services_introduced (introducer : MemberId) (address : Address)
    (service : Option ServiceId) :
    (registry.introduced introducer address service).services = registry.services := by
  unfold introduced; split <;> rfl

@[simp]
theorem blockedAddresses_introduced (introducer : MemberId) (address : Address)
    (service : Option ServiceId) :
    (registry.introduced introducer address service).blockedAddresses =
      registry.blockedAddresses := by
  unfold introduced; split <;> rfl

@[simp]
theorem blockedMembers_introduced (introducer : MemberId) (address : Address)
    (service : Option ServiceId) :
    (registry.introduced introducer address service).blockedMembers =
      registry.blockedMembers := by
  unfold introduced; split <;> rfl

@[simp]
theorem isBlocked_introduced (introducer : MemberId) (address other : Address)
    (service : Option ServiceId) :
    (registry.introduced introducer address service).isBlocked other =
      registry.isBlocked other := by
  simp [isBlocked]

@[simp]
theorem admits_introduced (introducer : MemberId) (address other : Address)
    (service : Option ServiceId) :
    (registry.introduced introducer address service).admits other ↔ registry.admits other := by
  simp [admits]

@[simp]
theorem recordOf_introduced (introducer : MemberId) (address : Address)
    (service : Option ServiceId) (peer : Peer) :
    (registry.introduced introducer address service).recordOf peer = registry.recordOf peer := by
  simp [recordOf, screened]

theorem mem_addresses_discover (peer : Peer) (address other : Address)
    (service : Option ServiceId) :
    other ∈ (registry.discover peer address service).addresses ↔
      other ∈ registry.addresses ∨ address = other ∧ registry.admits address ∨
        peer.address = other ∧ registry.admits peer.address ∧
          (registry.introduced peer.memberId address service).takes peer := by
  rw [discover_eq, mem_addresses_verify, mem_addresses_introduced, admits_introduced, or_assoc]

theorem getElem?_verified_discover (peer : Peer) (address : Address)
    (service : Option ServiceId) (member : MemberId) :
    (registry.discover peer address service).verified[member]? =
      if peer.memberId = member ∧
          (registry.introduced peer.memberId address service).takes peer then
        some (registry.recordOf peer)
      else registry.verified[member]? := by
  rw [discover_eq, getElem?_verified_verify, recordOf_introduced, verified_introduced]

@[simp]
theorem services_discover (peer : Peer) (address : Address) (service : Option ServiceId) :
    (registry.discover peer address service).services = registry.services := by
  rw [discover_eq, services_verify, services_introduced]

@[simp]
theorem blockedAddresses_discover (peer : Peer) (address : Address)
    (service : Option ServiceId) :
    (registry.discover peer address service).blockedAddresses = registry.blockedAddresses := by
  rw [discover_eq, blockedAddresses_verify, blockedAddresses_introduced]

@[simp]
theorem blockedMembers_discover (peer : Peer) (address : Address)
    (service : Option ServiceId) :
    (registry.discover peer address service).blockedMembers = registry.blockedMembers := by
  rw [discover_eq, blockedMembers_verify, blockedMembers_introduced]

end Registry

end PeerDiscovery
