import PeerDiscovery.Proofs.Registry.Operation
import PeerDiscovery.Proofs.Registry.Tables

/-!
# Consistency of the registry

Whatever is done to an empty registry, in whatever order and with whatever
arguments: records stand under their own members, verified peers are at known
addresses or at none, and the questions about addresses are answered
accordingly.

The invariant is the relation between the table of addresses and the table of
records.  Peers may share an address, move, lose their address to a block or be
verified without one; forgetting a member has to leave the address of everybody
else in place.
-/

namespace PeerDiscovery

namespace Registry

/-- The tables of addresses and of records fit together. -/
structure Coherent (registry : Registry) : Prop where
  keyed : ∀ (member : MemberId) (peer : Peer),
    registry.verified[member]? = some peer → peer.memberId = member
  placed : ∀ (member : MemberId) (peer : Peer),
    registry.verified[member]? = some peer →
      peer.address = .empty ∨ peer.address ∈ registry.addresses
  emptyUnknown : Address.empty ∉ registry.addresses

/-- The tables fit together, and the questions about addresses are answered from
both of them. -/
structure Consistent (registry : Registry) : Prop extends Coherent registry where
  found : ∀ (member : MemberId) (peer : Peer), registry.verified[member]? = some peer →
    ∃ (other : MemberId) (there : Peer), registry.peerAt? peer.address = some (other, there) ∧
      registry.verified[other]? = some there ∧ there.address = peer.address
  walkable : ∀ address, address ∈ registry.walkable none ↔
    address ∈ registry.addresses ∧
      ∀ (member : MemberId) (peer : Peer), registry.verified[member]? = some peer →
        peer.address ≠ address
  walkableFor : ∀ (service : ServiceId) (address : Address),
    address ∈ registry.walkable (some service) →
      address ∈ registry.addresses ∧
        ∀ (member : MemberId) (peer : Peer), registry.verified[member]? = some peer →
          registry.advertises member service = true → peer.address ≠ address

namespace Coherent

variable {registry : Registry}

theorem empty : Coherent Registry.empty where
  keyed member peer stored := by simp [Registry.empty] at stored
  placed member peer stored := by simp [Registry.empty] at stored
  emptyUnknown := by simp [Registry.empty]

theorem setPeer (coherent : Coherent registry) {member : MemberId} {peer : Peer}
    (own : peer.memberId = member)
    (there : peer.address = .empty ∨ peer.address ∈ registry.addresses) :
    Coherent (registry.setPeer member peer) where
  keyed other record stored := by
    rw [getElem?_verified_setPeer] at stored
    split at stored
    · cases stored
      rename_i same
      exact own.trans same
    · exact coherent.keyed other record stored
  placed other record stored := by
    rw [getElem?_verified_setPeer] at stored
    split at stored
    · cases stored
      exact there
    · exact coherent.placed other record stored
  emptyUnknown := coherent.emptyUnknown

theorem rememberAddress (coherent : Coherent registry) (address : Address) :
    Coherent (registry.rememberAddress address) where
  keyed member peer stored := coherent.keyed member peer (by simpa using stored)
  placed member peer stored := by
    rw [mem_addresses_rememberAddress, ← or_assoc]
    exact .inl (coherent.placed member peer (by simpa using stored))
  emptyUnknown := by
    rw [mem_addresses_rememberAddress]
    rintro (known | ⟨rfl, admitted⟩)
    · exact coherent.emptyUnknown known
    · exact admitted.1 rfl

/-- The record that verifying leaves is at a known address or at none: it either
keeps its address or moves to one that is remembered first. -/
theorem address_recordOf (coherent : Coherent registry) {peer : Peer}
    (taken : registry.takes peer) :
    (registry.recordOf peer).address = .empty ∨
      (registry.recordOf peer).address ∈
        (registry.rememberAddress peer.address).addresses := by
  rw [mem_addresses_rememberAddress]
  unfold recordOf
  cases found : registry.verified[peer.memberId]? with
  | some known =>
    have place := coherent.placed _ _ found
    rcases Peer.newerAddress_cases known.address (registry.screened peer).address with
      stays | ⟨moves, nonempty⟩
    · simp only [Peer.merge, stays]
      exact place.imp_right .inl
    · obtain vacant | ⟨same, unblocked⟩ := registry.address_screened peer
      · exact absurd vacant nonempty
      · have moved : (known.merge (registry.screened peer)).address = peer.address :=
          moves.trans same
        dsimp only
        rw [moved]
        exact .inr (.inr ⟨rfl, same ▸ nonempty, unblocked⟩)
  | none =>
    dsimp only
    have stranger : peer.memberId ∉ registry.verified := by
      simp [Std.ExtTreeMap.mem_iff_isSome_getElem?, found]
    rcases taken.2.resolve_left stranger with known | vacant | unblocked
    · exact .inr (.inl known)
    · exact .inl vacant
    · by_cases vacant : peer.address = .empty
      · exact .inl vacant
      · exact .inr (.inr ⟨rfl, vacant, unblocked⟩)

theorem memberId_recordOf (coherent : Coherent registry) (peer : Peer) :
    (registry.recordOf peer).memberId = peer.memberId := by
  unfold recordOf
  cases found : registry.verified[peer.memberId]? with
  | some known => exact coherent.keyed _ known found
  | none => rfl

theorem verify (coherent : Coherent registry) (peer : Peer) :
    Coherent (registry.verify peer) := by
  rw [verify_eq]
  split
  · rename_i taken
    exact (coherent.rememberAddress peer.address).setPeer
      (coherent.memberId_recordOf peer) (coherent.address_recordOf taken)
  · exact coherent

theorem introduced (coherent : Coherent registry) (introducer : MemberId)
    (address : Address) (service : Option ServiceId) :
    Coherent (registry.introduced introducer address service) where
  keyed member peer stored := coherent.keyed member peer (by simpa using stored)
  placed member peer stored := by
    rw [mem_addresses_introduced, ← or_assoc]
    exact .inl (coherent.placed member peer (by simpa using stored))
  emptyUnknown := by
    rw [mem_addresses_introduced]
    rintro (known | ⟨rfl, admitted⟩)
    · exact coherent.emptyUnknown known
    · exact admitted.1 rfl

theorem discover (coherent : Coherent registry) (introducer : Peer)
    (address : Address) (service : Option ServiceId) :
    Coherent (registry.discover introducer address service) := by
  rw [discover_eq]
  exact (coherent.introduced _ address service).verify introducer

theorem forgetAddress (coherent : Coherent registry) (address : Address) :
    Coherent (registry.forgetAddress address) where
  keyed member peer stored :=
    coherent.keyed member peer
      ((registry.getElem?_verified_forgetAddress address member peer).1 stored).1
  placed member peer stored := by
    rw [getElem?_verified_forgetAddress] at stored
    obtain ⟨before, elsewhere⟩ := stored
    rw [mem_addresses_forgetAddress]
    rcases coherent.placed member peer before with vacant | known
    · exact .inl vacant
    · rcases elsewhere with rfl | elsewhere
      · exact .inr ⟨known, fun same => coherent.emptyUnknown (same ▸ known)⟩
      · exact .inr ⟨known, Ne.symm elsewhere⟩
  emptyUnknown known :=
    coherent.emptyUnknown ((registry.mem_addresses_forgetAddress address .empty).1 known).1

theorem forgetPeer (coherent : Coherent registry) (member : MemberId) :
    Coherent (registry.forgetPeer member) where
  keyed other peer stored := by
    rw [getElem?_verified_forgetPeer] at stored
    split at stored
    · cases stored
    · exact coherent.keyed other peer stored
  placed other peer stored := by
    rw [getElem?_verified_forgetPeer] at stored
    split at stored
    · cases stored
    · rename_i differs
      rw [mem_addresses_forgetPeer]
      refine (coherent.placed other peer stored).imp_right fun known => ⟨known, ?_⟩
      -- the peer itself is the one that keeps its address known
      intro _ _ _
      exact ⟨other, peer, Ne.symm differs, stored, rfl⟩
  emptyUnknown known :=
    coherent.emptyUnknown ((registry.mem_addresses_forgetPeer member .empty).1 known).1

theorem sameButMarks (coherent : Coherent registry) {other : Registry}
    (same : SameButMarks registry other) : Coherent other where
  keyed member peer stored := by
    obtain ⟨before, known, unmarked⟩ := same.exists_unmarked stored
    rw [← Peer.memberId_unmarked, ← unmarked]
    exact coherent.keyed member before known
  placed member peer stored := by
    obtain ⟨before, known, unmarked⟩ := same.exists_unmarked stored
    rw [same.addresses, ← Peer.address_unmarked, ← unmarked]
    exact coherent.placed member before known
  emptyUnknown := by
    rw [same.addresses]
    exact coherent.emptyUnknown

theorem updateClock (coherent : Coherent registry) (member : MemberId) (time : UInt64)
    (now : Instant) : Coherent (registry.updateClock member time now) := by
  unfold Registry.updateClock
  split
  · rename_i peer found
    exact coherent.setPeer (coherent.keyed member peer found) (coherent.placed member peer found)
  · exact coherent

theorem apply (coherent : Coherent registry) (operation : Operation) :
    Coherent (registry.apply operation) := by
  cases operation with
  | verify peer => exact coherent.verify peer
  | discover introducer address service => exact coherent.discover introducer address service
  | addServices member services =>
    exact ⟨coherent.keyed, coherent.placed, coherent.emptyUnknown⟩
  | forgetAddress address => exact coherent.forgetAddress address
  | forgetPeer member => exact coherent.forgetPeer member
  | blockAddress address => exact ⟨coherent.keyed, coherent.placed, coherent.emptyUnknown⟩
  | blockMember member => exact ⟨coherent.keyed, coherent.placed, coherent.emptyUnknown⟩
  | markSent address now => exact coherent.sameButMarks (registry.sameButMarks_markSent address now)
  | markHeard address now =>
    exact coherent.sameButMarks (registry.sameButMarks_markHeard address now)
  | updateClock member time now => exact coherent.updateClock member time now

theorem run (coherent : Coherent registry) (operations : List Operation) :
    Coherent (registry.run operations) :=
  run_induction (motive := Coherent) (fun _ operation before => before.apply operation)
    coherent operations

end Coherent

/-- The answers about addresses follow from the tables. -/
theorem Coherent.consistent {registry : Registry} (coherent : Coherent registry) :
    Consistent registry where
  toCoherent := coherent
  found member peer stored := by
    obtain ⟨⟨other, there⟩, found⟩ := registry.exists_peerAt? stored
    exact ⟨other, there, found, registry.peerAt?_eq_some found⟩
  walkable := registry.mem_walkable_none
  walkableFor service address walks := by
    rw [mem_walkable_some] at walks
    obtain ⟨⟨entry, known, -⟩, free⟩ := walks
    exact ⟨by simp [Std.ExtTreeMap.mem_iff_isSome_getElem?, known], free⟩

/-- After every run of an empty registry everything fits together. -/
theorem consistent_run_empty (operations : List Operation) :
    Consistent (Registry.empty.run operations) :=
  (Coherent.empty.run operations).consistent

end Registry

end PeerDiscovery
