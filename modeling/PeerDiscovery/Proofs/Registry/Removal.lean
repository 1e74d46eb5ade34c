import PeerDiscovery.Proofs.Registry.Consistency
import PeerDiscovery.Proofs.Registry.Introducers

/-!
# What is forgotten, and what is not

An address is forgotten together with everybody who is there, and a member together with its
services.  A member that goes takes its address along if it is the last one there; whether it is,
is judged by those who remain.  Everything else stays: also the addresses that the forgotten members
introduced, which then have an introducer that is not verified.

Nobody who remains is left at an unknown address.
-/

namespace PeerDiscovery

namespace Registry

variable {registry : Registry}

/-- A verified member that is at an address. -/
def IsAt (registry : Registry) (address : Address) (member : MemberId) : Prop :=
  ∃ peer : Peer, registry.verified[member]? = some peer ∧ peer.address = address

/-- A verified member is at an address, and nobody else is. -/
def IsAloneAt (registry : Registry) (address : Address) (member : MemberId) : Prop :=
  registry.IsAt address member ∧ ∀ other, registry.IsAt address other → other = member

theorem exists_isAt_of_not_isAloneAt {address : Address} {member : MemberId}
    (there : registry.IsAt address member) (company : ¬registry.IsAloneAt address member) :
    ∃ other, other ≠ member ∧ registry.IsAt address other := by
  obtain ⟨other, unforced⟩ := Classical.not_forall.1 fun alone => company ⟨there, alone⟩
  obtain ⟨thereToo, differs⟩ := Classical.not_imp.1 unforced
  exact ⟨other, differs, thereToo⟩

/-- Between two registries some members, addresses and services are gone, and nothing else is
different. -/
structure Removes (before after : Registry) (evicts : MemberId → Prop)
    (forgets : Address → Prop) (drops : MemberId → Prop) : Prop where
  evicted : ∀ member, evicts member → member ∉ after.verified
  records : ∀ member, ¬evicts member → after.verified[member]? = before.verified[member]?
  forgotten : ∀ address, forgets address → address ∉ after.addresses
  entries : ∀ address, ¬forgets address → after.addresses[address]? = before.addresses[address]?
  dropped : ∀ member, drops member → member ∉ after.services
  services : ∀ member, ¬drops member → after.services[member]? = before.services[member]?
  blockedAddresses : after.blockedAddresses = before.blockedAddresses
  blockedMembers : after.blockedMembers = before.blockedMembers
  placed : ∀ (member : MemberId) (peer : Peer), after.verified[member]? = some peer →
    peer.address ≠ .empty → peer.address ∈ after.addresses

theorem Coherent.mem_addresses_of_stored (coherent : Coherent registry) {member : MemberId}
    {peer : Peer} (stored : registry.verified[member]? = some peer)
    (nonempty : peer.address ≠ .empty) : peer.address ∈ registry.addresses :=
  (coherent.placed member peer stored).resolve_left nonempty

theorem getElem?_verified_forgetAddress_of_not_isAt {address : Address} {member : MemberId}
    (elsewhere : ¬registry.IsAt address member) :
    (registry.forgetAddress address).verified[member]? = registry.verified[member]? := by
  refine Option.ext fun peer => ?_
  rw [getElem?_verified_forgetAddress]
  constructor
  · exact And.left
  · intro stored
    exact ⟨stored, .inr fun there => elsewhere ⟨peer, stored, there⟩⟩

theorem not_mem_verified_forgetAddress {address : Address} (nonempty : address ≠ .empty)
    {member : MemberId} (there : registry.IsAt address member) :
    member ∉ (registry.forgetAddress address).verified := by
  obtain ⟨peer, stored, here⟩ := there
  intro remains
  obtain ⟨left, found⟩ :=
    Option.isSome_iff_exists.1 (Std.ExtTreeMap.mem_iff_isSome_getElem?.1 remains)
  obtain ⟨before, elsewhere⟩ := (registry.getElem?_verified_forgetAddress ..).1 found
  cases stored.symm.trans before
  exact elsewhere.resolve_left nonempty here

theorem removes_forgetAddress (coherent : Coherent registry) {address : Address}
    (nonempty : address ≠ .empty) :
    Removes registry (registry.forgetAddress address) (registry.IsAt address) (· = address)
      (fun _ => False) where
  evicted _ := not_mem_verified_forgetAddress nonempty
  records _ := getElem?_verified_forgetAddress_of_not_isAt
  forgotten other same known := by
    obtain ⟨-, differs⟩ := (registry.mem_addresses_forgetAddress address other).1 known
    exact differs same.symm
  entries other differs := by
    simp [forgetAddress, Std.ExtTreeMap.getElem?_erase, Ne.symm differs]
  dropped _ := False.elim
  services _ _ := rfl
  blockedAddresses := rfl
  blockedMembers := rfl
  placed _ _ stored := (coherent.forgetAddress address).mem_addresses_of_stored stored

/-! The members at an address may as well be collected first and evicted one by one. -/

theorem getElem?_foldl_erase (victims : List MemberId) (records : Std.ExtTreeMap MemberId Peer)
    (member : MemberId) :
    (victims.foldl (fun left victim => left.erase victim) records)[member]? =
      if member ∈ victims then none else records[member]? := by
  induction victims generalizing records with
  | nil => simp
  | cons victim victims ih =>
      rw [List.foldl_cons, ih, Std.ExtTreeMap.getElem?_erase]
      by_cases same : victim = member
      · simp [same]
      · simp [same, Ne.symm same]

theorem mem_members_peersAt {address : Address} {member : MemberId} :
    member ∈ (registry.peersAt address).map (·.1) ↔ registry.IsAt address member := by
  simp [peersAt, IsAt]

theorem verified_forgetAddress_eq_foldl {address : Address} (nonempty : address ≠ .empty) :
    (registry.forgetAddress address).verified =
      ((registry.peersAt address).map (·.1)).foldl (fun left victim => left.erase victim)
        registry.verified := by
  refine Std.ExtTreeMap.ext_getElem? fun member => ?_
  rw [getElem?_foldl_erase]
  split
  · rename_i listed
    simpa using not_mem_verified_forgetAddress nonempty (mem_members_peersAt.1 listed)
  · rename_i unlisted
    exact getElem?_verified_forgetAddress_of_not_isAt (mt mem_members_peersAt.2 unlisted)

theorem forgetAddress_empty (coherent : Coherent registry) :
    registry.forgetAddress .empty = registry := by
  ext1
  · refine Std.ExtTreeMap.ext_getElem? fun address => ?_
    by_cases vacant : address = .empty
    · subst vacant
      have unknown : registry.addresses[Address.empty]? = none := by
        simpa using coherent.emptyUnknown
      simp [forgetAddress, unknown]
    · simp [forgetAddress, Std.ExtTreeMap.getElem?_erase, Ne.symm vacant]
  · simp [forgetAddress]
  all_goals rfl

/-- The address of a member stays known exactly if somebody else is there. -/
theorem mem_addresses_forgetPeer_of_isAt (coherent : Coherent registry) {address : Address}
    {member : MemberId} (there : registry.IsAt address member) (nonempty : address ≠ .empty) :
    address ∈ (registry.forgetPeer member).addresses ↔
      ∃ other, other ≠ member ∧ registry.IsAt address other := by
  obtain ⟨peer, stored, rfl⟩ := there
  have known := coherent.mem_addresses_of_stored stored nonempty
  rw [mem_addresses_forgetPeer]
  constructor
  · rintro ⟨-, shared⟩
    obtain ⟨other, remaining, differs, storedOther, thereToo⟩ := shared peer stored rfl
    exact ⟨other, differs, remaining, storedOther, thereToo⟩
  · rintro ⟨other, differs, remaining, storedOther, thereToo⟩
    exact ⟨known, fun _ _ _ => ⟨other, remaining, differs, storedOther, thereToo⟩⟩

theorem getElem?_addresses_forgetPeer_of_not_isAloneAt (coherent : Coherent registry)
    {address : Address} {member : MemberId}
    (stays : ¬(address ≠ .empty ∧ registry.IsAloneAt address member)) :
    (registry.forgetPeer member).addresses[address]? = registry.addresses[address]? := by
  cases known : registry.addresses[address]? with
  | none =>
      cases remaining : (registry.forgetPeer member).addresses[address]? with
      | none => rfl
      | some entry =>
          rw [entry_forgetPeer remaining] at known
          cases known
  | some entry =>
      have listed : address ∈ registry.addresses := by
        rw [Std.ExtTreeMap.mem_iff_isSome_getElem?, known]
        rfl
      have nonempty : address ≠ .empty := by
        rintro rfl
        exact coherent.emptyUnknown listed
      have still : address ∈ (registry.forgetPeer member).addresses := by
        refine (registry.mem_addresses_forgetPeer member address).2 ⟨listed, ?_⟩
        intro peer stored there
        have company := exists_isAt_of_not_isAloneAt ⟨peer, stored, there⟩
          fun alone => stays ⟨nonempty, alone⟩
        obtain ⟨other, differs, remaining, storedOther, thereToo⟩ := company
        exact ⟨other, remaining, differs, storedOther, thereToo⟩
      obtain ⟨entryThen, found⟩ :=
        Option.isSome_iff_exists.1 (Std.ExtTreeMap.mem_iff_isSome_getElem?.1 still)
      rw [found, ← known, entry_forgetPeer found]

theorem removes_forgetPeer (coherent : Coherent registry) (member : MemberId) :
    Removes registry (registry.forgetPeer member) (· = member)
      (fun address => address ≠ .empty ∧ registry.IsAloneAt address member) (· = member) where
  evicted other same := by
    subst same
    simp [verified_forgetPeer]
  records other differs := by
    rw [getElem?_verified_forgetPeer, if_neg (Ne.symm differs)]
  forgotten address := by
    rintro ⟨nonempty, there, alone⟩ remains
    obtain ⟨other, differs, thereToo⟩ :=
      (mem_addresses_forgetPeer_of_isAt coherent there nonempty).1 remains
    exact differs (alone other thereToo)
  entries _ := getElem?_addresses_forgetPeer_of_not_isAloneAt coherent
  dropped other same := by
    subst same
    simp [services_forgetPeer]
  services other differs := by
    simp [services_forgetPeer, Std.ExtTreeMap.getElem?_erase, Ne.symm differs]
  blockedAddresses := registry.blockedAddresses_forgetPeer member
  blockedMembers := registry.blockedMembers_forgetPeer member
  placed _ _ stored := (coherent.forgetPeer member).mem_addresses_of_stored stored

/-- Forgetting removes what it is meant to remove, and nothing else. -/
structure ForgetsExactly (registry : Registry) : Prop where
  address : ∀ address, address ≠ .empty →
    Removes registry (registry.forgetAddress address) (registry.IsAt address) (· = address)
      (fun _ => False)
  oneByOne : ∀ address, address ≠ .empty → (registry.forgetAddress address).verified =
    ((registry.peersAt address).map (·.1)).foldl (fun left victim => left.erase victim)
      registry.verified
  nowhere : registry.forgetAddress .empty = registry
  /-- With a member its services go, and its address if nobody else is there. -/
  member : ∀ member, Removes registry (registry.forgetPeer member) (· = member)
    (fun address => address ≠ .empty ∧ registry.IsAloneAt address member) (· = member)
  shared : ∀ (member : MemberId) (address : Address), registry.IsAt address member →
    address ≠ .empty → (address ∉ (registry.forgetPeer member).addresses ↔
      ∀ other, other ≠ member → ¬registry.IsAt address other)

theorem forgetsExactly_run_empty (history : List Operation) :
    (Registry.empty.run history).ForgetsExactly where
  address _ := removes_forgetAddress (Coherent.empty.run history)
  oneByOne _ := verified_forgetAddress_eq_foldl
  nowhere := forgetAddress_empty (Coherent.empty.run history)
  member := removes_forgetPeer (Coherent.empty.run history)
  shared member address there nonempty := by
    rw [mem_addresses_forgetPeer_of_isAt (Coherent.empty.run history) there nonempty]
    simp only [not_exists, not_and]

end Registry

end PeerDiscovery
