import PeerDiscovery.Proofs.Registry.Consistency
import PeerDiscovery.Proofs.Registry.Observation

/-!
# What blocking keeps out

Blocks are looked at in three places: when an address is introduced, when a new
peer is verified, and when a known one moves.  The three do not agree.  A new peer
is verified at a blocked address that is known, and a known one stays where it is
when its address is blocked.

What is blocked in time stays out for good all the same.  An unknown address has no
peer at it, and every way for a peer to come to it makes it known first.
-/

namespace PeerDiscovery

namespace Registry

/-- What an operation lets in, with the blocks that hold after it. -/
structure Screens (registry : Registry) (operation : Operation) : Prop where
  known : ∀ address, address ∉ registry.addresses →
    address ∈ (registry.apply operation).addresses →
      address ≠ .empty ∧ (registry.apply operation).isBlocked address = false
  verified : ∀ member, member ∉ registry.verified →
    member ∈ (registry.apply operation).verified →
      (registry.apply operation).blockedMembers.contains member = false
  moved : ∀ (member : MemberId) (before after : Peer),
    registry.verified[member]? = some before →
    (registry.apply operation).verified[member]? = some after →
    after.address ≠ before.address →
      after.address = .empty ∨ (registry.apply operation).isBlocked after.address = false
  settled : ∀ (member : MemberId) (after : Peer), member ∉ registry.verified →
    (registry.apply operation).verified[member]? = some after →
      after.address = .empty ∨ (registry.apply operation).isBlocked after.address = false ∨
        after.address ∈ registry.addresses

/-- An address that plays no part: it is not known, not walkable, whatever it is
asked for, and no verified peer is at it. -/
structure Shuns (registry : Registry) (address : Address) : Prop where
  unknown : address ∉ registry.addresses
  unwalkable : ∀ service : Option ServiceId, address ∉ registry.walkable service
  unoccupied : ∀ (member : MemberId) (peer : Peer), registry.verified[member]? = some peer →
    peer.address ≠ address

/-- Every operation heeds the blocks, and what is blocked before it is known or
verified never will be, whatever happens later. -/
structure HeedsBlocks (registry : Registry) : Prop where
  screens : ∀ operation, registry.Screens operation
  shuns : ∀ address, address ≠ .empty → address ∉ registry.addresses →
    ∀ later, ((registry.blockAddress address).run later).Shuns address
  excludes : ∀ member, member ∉ registry.verified →
    ∀ later, member ∉ ((registry.blockMember member).run later).verified

variable (registry : Registry)

theorem not_mem_verified_iff (member : MemberId) :
    member ∉ registry.verified ↔ registry.verified[member]? = none := by
  simp

theorem isBlocked_apply_of_shown {operation : Operation} {peer : Peer}
    (shown : operation.shown? = some peer) (address : Address) :
    (registry.apply operation).isBlocked address = registry.isBlocked address := by
  unfold isBlocked
  rw [(registry.blocks_of_shown shown).1]

/-- A record that is new or elsewhere than before was left by a peer. -/
theorem left_of_verified_apply {operation : Operation} {member : MemberId} {after : Peer}
    (stored : (registry.apply operation).verified[member]? = some after)
    (changed : ∀ before : Peer, registry.verified[member]? = some before →
      after.address ≠ before.address) :
    ∃ peer, operation.shown? = some peer ∧ peer.memberId = member ∧ registry.takes peer ∧
      registry.recordOf peer = after := by
  cases registry.stems_of_verified_apply stored with
  | kept before found same =>
      exact absurd (congrArg Peer.address same).symm (changed before found)
  | left peer shown own taken record => exact ⟨peer, shown, own, taken, record⟩

theorem screens (operation : Operation) : registry.Screens operation where
  known address unknown known := by
    obtain before | ⟨⟨peer, shown⟩, nonempty, unblocked⟩ := registry.mem_addresses_apply known
    · exact absurd before unknown
    · rw [registry.isBlocked_apply_of_shown shown]
      exact ⟨nonempty, unblocked⟩
  verified member stranger now := by
    obtain ⟨after, stored⟩ := Option.isSome_iff_exists.1
      (Std.ExtTreeMap.mem_iff_isSome_getElem?.1 now)
    have unseen := (registry.not_mem_verified_iff member).1 stranger
    obtain ⟨peer, shown, rfl, taken, -⟩ := registry.left_of_verified_apply stored
      (by simp [unseen])
    rw [(registry.blocks_of_shown shown).2]
    exact taken.1
  moved member before after found stored elsewhere := by
    obtain ⟨peer, shown, rfl, -, rfl⟩ := registry.left_of_verified_apply stored
      (by simpa [found] using elsewhere)
    rw [registry.isBlocked_apply_of_shown shown]
    have merged : (registry.recordOf peer).address =
        Peer.newerAddress before.address (registry.screened peer).address := by
      unfold recordOf
      rw [found]
      rfl
    rcases Peer.newerAddress_cases before.address (registry.screened peer).address with
      stays | ⟨moves, nonempty⟩
    · exact absurd (merged.trans stays) elsewhere
    · obtain vacant | ⟨same, unblocked⟩ := registry.address_screened peer
      · exact absurd vacant nonempty
      · right
        rw [merged, moves, same]
        exact unblocked
  settled member after stranger stored := by
    have unseen := (registry.not_mem_verified_iff member).1 stranger
    obtain ⟨peer, shown, rfl, taken, record⟩ := registry.left_of_verified_apply stored
      (by simp [unseen])
    have itself : registry.recordOf peer = peer := by
      unfold recordOf
      rw [unseen]
    rw [registry.isBlocked_apply_of_shown shown, ← record, itself]
    rcases taken.2.resolve_left stranger with known | vacant | unblocked
    · exact .inr (.inr known)
    · exact .inl vacant
    · exact .inr (.inl unblocked)

theorem isBlocked_apply {address : Address} (blocked : registry.isBlocked address = true)
    (operation : Operation) : (registry.apply operation).isBlocked address = true := by
  cases shown : operation.shown? with
  | none => exact (registry.blocks_of_not_shown shown).1 address blocked
  | some peer => rw [registry.isBlocked_apply_of_shown shown, blocked]

theorem blocksMember_apply {member : MemberId}
    (blocked : registry.blockedMembers.contains member = true) (operation : Operation) :
    (registry.apply operation).blockedMembers.contains member = true := by
  cases shown : operation.shown? with
  | none => exact (registry.blocks_of_not_shown shown).2 member blocked
  | some peer => rw [(registry.blocks_of_shown shown).2, blocked]

theorem unknown_run {registry : Registry} {address : Address}
    (blocked : registry.isBlocked address = true) (unknown : address ∉ registry.addresses)
    (later : List Operation) : address ∉ (registry.run later).addresses := by
  have kept := run_induction
    (motive := fun current => current.isBlocked address = true ∧ address ∉ current.addresses)
    (fun current operation before => by
      have blockedThen := current.isBlocked_apply before.1 operation
      refine ⟨blockedThen, fun known => ?_⟩
      have free := ((current.screens operation).known address before.2 known).2
      rw [blockedThen] at free
      cases free)
    ⟨blocked, unknown⟩ later
  exact kept.2

theorem unverified_run {registry : Registry} {member : MemberId}
    (blocked : registry.blockedMembers.contains member = true)
    (stranger : member ∉ registry.verified) (later : List Operation) :
    member ∉ (registry.run later).verified := by
  have kept := run_induction
    (motive := fun current => current.blockedMembers.contains member = true ∧
      member ∉ current.verified)
    (fun current operation before => by
      have blockedThen := current.blocksMember_apply before.1 operation
      refine ⟨blockedThen, fun verified => ?_⟩
      have free := (current.screens operation).verified member before.2 verified
      rw [blockedThen] at free
      cases free)
    ⟨blocked, stranger⟩ later
  exact kept.2

theorem mem_addresses_of_mem_walkable {service : Option ServiceId} {address : Address}
    (walks : address ∈ registry.walkable service) : address ∈ registry.addresses := by
  cases service with
  | none => exact ((registry.mem_walkable_none address).1 walks).1
  | some service =>
      obtain ⟨⟨entry, known, -⟩, -⟩ := (registry.mem_walkable_some service address).1 walks
      exact Std.ExtTreeMap.mem_iff_isSome_getElem?.2 (by rw [known]; rfl)

/-- An unknown address is nobody's, as every peer is at a known one or at none. -/
theorem Coherent.shuns {registry : Registry} (coherent : Coherent registry) {address : Address}
    (nonempty : address ≠ .empty) (unknown : address ∉ registry.addresses) :
    registry.Shuns address where
  unknown := unknown
  unwalkable service walks := unknown (registry.mem_addresses_of_mem_walkable walks)
  unoccupied member peer stored := by
    rintro rfl
    rcases coherent.placed member peer stored with vacant | known
    · exact nonempty vacant
    · exact unknown known

/-- Blocks are heeded in every state of every run of an empty registry. -/
theorem heedsBlocks_run_empty (operations : List Operation) :
    (Registry.empty.run operations).HeedsBlocks where
  screens := (Registry.empty.run operations).screens
  shuns address nonempty unknown later := by
    have coherent := Coherent.empty.run operations
    have blocked : ((Registry.empty.run operations).blockAddress address).isBlocked address =
        true :=
      (isBlocked_foldl_blockAddress _ [address] address).2 (.inr (by simp))
    exact ((coherent.apply (.blockAddress address)).run later).shuns nonempty
      (unknown_run blocked unknown later)
  excludes member stranger later := by
    have blocked : ((Registry.empty.run operations).blockMember member).blockedMembers.contains
        member = true := by
      simp [blockMember]
    exact unverified_run blocked stranger later

end Registry

end PeerDiscovery
