import PeerDiscovery.Proofs.Registry.Operation
import PeerDiscovery.Proofs.Registry.Tables

/-!
# Where records come from

An operation shows a peer when it verifies that peer, either for its own sake or
because the peer introduces an address.  The record of a member after any
operation is the one from before, but for its clock and its marks, or the one
that a peer leaves which the operation shows.  Only such operations make an
address known, and no operation lifts a block.
-/

namespace PeerDiscovery

namespace Peer

/-- The record without its clock and its marks: who the peer is, how it became
known, and where it is found. -/
def profile (peer : Peer) : Peer := { peer.unmarked with clock := 0 }

theorem profile_congr {first second : Peer} (same : first.unmarked = second.unmarked) :
    first.profile = second.profile :=
  congrArg (fun peer : Peer => { peer with clock := 0 }) same

end Peer

namespace Registry

/-- The peer that an operation verifies, if it verifies one. -/
def Operation.shown? : Operation → Option Peer
  | verify peer => some peer
  | discover introducer _ _ => some introducer
  | _ => none

variable (registry : Registry)

/-- Whether a peer is taken does not depend on what it introduces: an address that
becomes known is not blocked. -/
theorem takes_introduced (introducer : MemberId) (address : Address)
    (service : Option ServiceId) (peer : Peer) :
    (registry.introduced introducer address service).takes peer ↔ registry.takes peer := by
  unfold takes
  rw [blockedMembers_introduced, verified_introduced, mem_addresses_introduced,
    isBlocked_introduced]
  constructor
  · rintro ⟨member, verified | (known | ⟨rfl, admitted⟩) | place⟩
    · exact ⟨member, .inl verified⟩
    · exact ⟨member, .inr (.inl known)⟩
    · exact ⟨member, .inr (.inr (.inr admitted.2))⟩
    · exact ⟨member, .inr (.inr place)⟩
  · rintro ⟨member, verified | known | place⟩
    · exact ⟨member, .inl verified⟩
    · exact ⟨member, .inr (.inl (.inl known))⟩
    · exact ⟨member, .inr (.inr place)⟩

theorem getElem?_verified_apply_of_shown {operation : Operation} {peer : Peer}
    (shown : operation.shown? = some peer) (member : MemberId) :
    (registry.apply operation).verified[member]? =
      if peer.memberId = member ∧ registry.takes peer then some (registry.recordOf peer)
      else registry.verified[member]? := by
  cases operation with
  | verify observed =>
      cases shown
      exact registry.getElem?_verified_verify peer member
  | discover introducer address service =>
      cases shown
      have found := registry.getElem?_verified_discover peer address service member
      simp only [takes_introduced] at found
      exact found
  | _ => cases shown

/-- What a peer of a verified member leaves, if the member is not blocked. -/
theorem verified_apply_of_known {operation : Operation} {peer known : Peer}
    (shown : operation.shown? = some peer)
    (stored : registry.verified[peer.memberId]? = some known)
    (unblocked : registry.blockedMembers.contains peer.memberId = false) :
    (registry.apply operation).verified[peer.memberId]? =
      some (known.merge (registry.screened peer)) := by
  have taken : registry.takes peer :=
    ⟨unblocked, .inl (Std.ExtTreeMap.mem_iff_isSome_getElem?.2 (by rw [stored]; rfl))⟩
  rw [registry.getElem?_verified_apply_of_shown shown, if_pos ⟨rfl, taken⟩]
  unfold recordOf
  rw [stored]

theorem SameButMarks.exists_profile {registry other : Registry}
    (same : SameButMarks registry other) {member : MemberId} {after : Peer}
    (stored : other.verified[member]? = some after) :
    ∃ before : Peer, registry.verified[member]? = some before ∧
      before.profile = after.profile := by
  obtain ⟨before, found, unmarked⟩ := same.exists_unmarked stored
  exact ⟨before, found, Peer.profile_congr unmarked⟩

theorem exists_profile_of_not_shown {operation : Operation} (unshown : operation.shown? = none)
    {member : MemberId} {after : Peer}
    (stored : (registry.apply operation).verified[member]? = some after) :
    ∃ before : Peer, registry.verified[member]? = some before ∧
      before.profile = after.profile := by
  cases operation with
  | verify peer => cases unshown
  | discover introducer address service => cases unshown
  | addServices other services => exact ⟨after, stored, rfl⟩
  | forgetAddress address =>
      exact ⟨after, ((registry.getElem?_verified_forgetAddress address member after).1 stored).1,
        rfl⟩
  | forgetPeer other =>
      have remaining := registry.getElem?_verified_forgetPeer other member
      rw [show (registry.forgetPeer other).verified[member]? = some after from stored] at remaining
      split at remaining
      · cases remaining
      · exact ⟨after, remaining.symm, rfl⟩
  | blockAddress address => exact ⟨after, stored, rfl⟩
  | blockMember other => exact ⟨after, stored, rfl⟩
  | markSent address now => exact (registry.sameButMarks_markSent address now).exists_profile stored
  | markHeard address now =>
      exact (registry.sameButMarks_markHeard address now).exists_profile stored
  | updateClock other time now =>
      have moved := registry.getElem?_verified_updateClock other member time now
      rw [show (registry.updateClock other time now).verified[member]? = some after from stored]
        at moved
      split at moved
      · obtain ⟨before, found, rfl⟩ := Option.map_eq_some_iff.1 moved.symm
        exact ⟨before, found, rfl⟩
      · exact ⟨after, moved.symm, rfl⟩

/-- Where the record of a member after an operation comes from. -/
inductive Stems (operation : Operation) (member : MemberId) (after : Peer) : Prop where
  | kept (before : Peer) :
      registry.verified[member]? = some before → before.profile = after.profile →
      Stems operation member after
  | left (peer : Peer) :
      operation.shown? = some peer → peer.memberId = member → registry.takes peer →
      registry.recordOf peer = after → Stems operation member after

theorem stems_of_verified_apply {operation : Operation} {member : MemberId} {after : Peer}
    (stored : (registry.apply operation).verified[member]? = some after) :
    registry.Stems operation member after := by
  cases shown : operation.shown? with
  | none =>
      obtain ⟨before, found, same⟩ := registry.exists_profile_of_not_shown shown stored
      exact .kept before found same
  | some peer =>
      rw [registry.getElem?_verified_apply_of_shown shown] at stored
      split at stored
      · rename_i taken
        exact .left peer shown taken.1 taken.2 (Option.some.inj stored)
      · exact .kept after stored rfl

/-- An address that an operation makes known is one that may be recorded, and the
operation shows a peer. -/
theorem mem_addresses_apply {operation : Operation} {address : Address}
    (known : address ∈ (registry.apply operation).addresses) :
    address ∈ registry.addresses ∨ (∃ peer, operation.shown? = some peer) ∧
      registry.admits address := by
  cases operation with
  | verify peer =>
      obtain before | ⟨rfl, admitted, -⟩ := (registry.mem_addresses_verify peer address).1 known
      · exact .inl before
      · exact .inr ⟨⟨peer, rfl⟩, admitted⟩
  | discover introducer introduced service =>
      obtain before | ⟨rfl, admitted⟩ | ⟨rfl, admitted, -⟩ :=
        (registry.mem_addresses_discover introducer introduced address service).1 known
      · exact .inl before
      · exact .inr ⟨⟨introducer, rfl⟩, admitted⟩
      · exact .inr ⟨⟨introducer, rfl⟩, admitted⟩
  | addServices member services => exact .inl known
  | forgetAddress other =>
      exact .inl ((registry.mem_addresses_forgetAddress other address).1 known).1
  | forgetPeer member => exact .inl ((registry.mem_addresses_forgetPeer member address).1 known).1
  | blockAddress blocked => exact .inl known
  | blockMember member => exact .inl known
  | markSent place now =>
      left
      rw [← (registry.sameButMarks_markSent place now).addresses]
      exact known
  | markHeard place now =>
      left
      rw [← (registry.sameButMarks_markHeard place now).addresses]
      exact known
  | updateClock member time now =>
      left
      rw [← registry.addresses_updateClock member time now]
      exact known

theorem blocks_of_shown {operation : Operation} {peer : Peer}
    (shown : operation.shown? = some peer) :
    (registry.apply operation).blockedAddresses = registry.blockedAddresses ∧
      (registry.apply operation).blockedMembers = registry.blockedMembers := by
  cases operation with
  | verify observed =>
      exact ⟨registry.blockedAddresses_verify observed, registry.blockedMembers_verify observed⟩
  | discover introducer address service =>
      exact ⟨registry.blockedAddresses_discover introducer address service,
        registry.blockedMembers_discover introducer address service⟩
  | _ => cases shown

/-- What an operation that shows nobody blocks is blocked in addition. -/
theorem blocks_of_not_shown {operation : Operation} (unshown : operation.shown? = none) :
    (∀ address, registry.isBlocked address = true →
        (registry.apply operation).isBlocked address = true) ∧
      ∀ member, registry.blockedMembers.contains member = true →
        (registry.apply operation).blockedMembers.contains member = true := by
  have same : ∀ other : Registry, other.blockedAddresses = registry.blockedAddresses →
      other.blockedMembers = registry.blockedMembers →
      (∀ address, registry.isBlocked address = true → other.isBlocked address = true) ∧
        ∀ member, registry.blockedMembers.contains member = true →
          other.blockedMembers.contains member = true := by
    intro other addresses members
    unfold isBlocked
    rw [addresses, members]
    exact ⟨fun _ => id, fun _ => id⟩
  cases operation with
  | verify peer => cases unshown
  | discover introducer address service => cases unshown
  | addServices member services => exact same _ rfl rfl
  | forgetAddress address => exact same _ rfl rfl
  | forgetPeer member =>
      exact same _ (registry.blockedAddresses_forgetPeer member)
        (registry.blockedMembers_forgetPeer member)
  | blockAddress blocked =>
      refine ⟨fun address before => ?_, fun _ => id⟩
      exact ((isBlocked_foldl_blockAddress registry [blocked] address).2 (.inl before))
  | blockMember blocked =>
      refine ⟨fun _ => id, fun member before => ?_⟩
      simp only [apply, blockMember, Std.ExtTreeSet.contains_insert, before, Bool.or_true]
  | markSent address now =>
      have marks := registry.sameButMarks_markSent address now
      exact same _ marks.blockedAddresses marks.blockedMembers
  | markHeard address now =>
      have marks := registry.sameButMarks_markHeard address now
      exact same _ marks.blockedAddresses marks.blockedMembers
  | updateClock member time now =>
      exact same _ (registry.blockedAddresses_updateClock member time now)
        (registry.blockedMembers_updateClock member time now)

end Registry

end PeerDiscovery
