import PeerDiscovery.Proofs.Registry.Clocks
import PeerDiscovery.Proofs.Registry.Introducers

/-!
# Repetition changes nothing

When a peer is shown to a registry for the second time, the registry is another one than the first
time.  The member may be verified by now, so that the peer is merged into a record instead of being
stored, and then its address does not count if it is blocked.  The introduced address may have the
peer as its introducer by now, and whether an introduction is taken depends on who is verified.

The same registry comes out of it nevertheless: a record absorbs what it was made of, and an entry
is replaced by itself.
-/

namespace PeerDiscovery

namespace Instant

theorem latest?_self (mark : Option Instant) : latest? mark mark = mark := by
  cases mark <;> simp [latest?]

theorem latest?_again (known observed : Option Instant) :
    latest? (latest? known observed) observed = latest? known observed := by
  cases known <;> cases observed <;> simp [latest?]

end Instant

namespace Peer

theorem newerAddress_self (address : Address) : newerAddress address address = address := by
  simp [newerAddress]

theorem newerAddress_again (known observed : Address) :
    newerAddress (newerAddress known observed) observed = newerAddress known observed := by
  rcases newerAddress_cases known observed with stays | ⟨moves, -⟩
  · rw [stays, stays]
  · rw [moves, newerAddress_self]

theorem merge_again (known observed : Peer) :
    (known.merge observed).merge observed = known.merge observed := by
  have clocks : max (max known.clock observed.clock) observed.clock =
      max known.clock observed.clock := by
    grind [Registry.max_clock_eq]
  simp only [merge, newerAddress_again, Instant.latest?_again, clocks]

end Peer

namespace Registry

variable (registry : Registry)

/-- A peer that was stored as it is absorbs itself, also where a block takes its address away. -/
theorem merge_screened (peer : Peer) : peer.merge (registry.screened peer) = peer := by
  have clocks : max peer.clock peer.clock = peer.clock := by
    grind [max_clock_eq]
  have place : Peer.newerAddress peer.address (registry.screened peer).address = peer.address := by
    rcases registry.address_screened peer with vacant | ⟨same, -⟩
    · simp [vacant, Peer.newerAddress_eq]
    · rw [same, Peer.newerAddress_self]
  rw [screened_eq]
  simp only [Peer.merge, place, Peer.newerAddress_self, Instant.latest?_self, clocks]

theorem screened_verify (shown peer : Peer) :
    (registry.verify shown).screened peer = registry.screened peer := by
  unfold screened isBlocked
  rw [blockedAddresses_verify]

theorem admits_verify (shown : Peer) (address : Address) :
    (registry.verify shown).admits address ↔ registry.admits address :=
  admits_congr (registry.blockedAddresses_verify shown)

theorem takes_verify_self {peer : Peer} (taken : registry.takes peer) :
    (registry.verify peer).takes peer := by
  have verified : peer.memberId ∈ (registry.verify peer).verified := by
    rw [Std.ExtTreeMap.mem_iff_isSome_getElem?, getElem?_verified_verify, if_pos ⟨rfl, taken⟩]
    rfl
  refine ⟨?_, .inl verified⟩
  rw [blockedMembers_verify]
  exact taken.1

/-- The record that a peer leaves is the one that it leaves again. -/
theorem recordOf_verify_self {peer : Peer} (taken : registry.takes peer) :
    (registry.verify peer).recordOf peer = registry.recordOf peer := by
  have stored : (registry.verify peer).verified[peer.memberId]? =
      some (registry.recordOf peer) := by
    rw [getElem?_verified_verify, if_pos ⟨rfl, taken⟩]
  have merged : (registry.verify peer).recordOf peer =
      (registry.recordOf peer).merge (registry.screened peer) := by
    rw [← screened_verify registry peer peer]
    rw [recordOf, stored]
  rw [merged, recordOf]
  cases registry.verified[peer.memberId]? with
  | none => exact registry.merge_screened peer
  | some known => exact known.merge_again (registry.screened peer)

theorem verify_verify (peer : Peer) : (registry.verify peer).verify peer = registry.verify peer := by
  by_cases taken : registry.takes peer
  · have takenAgain := registry.takes_verify_self taken
    ext1
    · refine Std.ExtTreeMap.ext_getElem? fun address => ?_
      rw [getElem?_addresses_verify]
      split
      · rename_i here
        have remembered : (registry.verify peer).addresses[address]? =
            some (registry.addresses[address]?.getD .direct) := by
          have admitted := (registry.admits_verify peer peer.address).1 here.2.1
          rw [getElem?_addresses_verify, if_pos ⟨here.1, admitted, taken⟩]
        rw [remembered, Option.getD_some]
      · rfl
    · refine Std.ExtTreeMap.ext_getElem? fun member => ?_
      rw [getElem?_verified_verify, recordOf_verify_self registry taken,
        getElem?_verified_verify]
      by_cases same : peer.memberId = member <;> simp [same, taken]
    · rw [services_verify]
    · rw [blockedAddresses_verify]
    · rw [blockedMembers_verify]
  · have refused : registry.verify peer = registry := by rw [verify_eq, if_neg taken]
    rw [refused, refused]

/-- Introducing an address anew changes nothing where the entry says the same already, or somebody
else stands behind it. -/
theorem introduced_eq_self {member : MemberId} {address : Address} {service : Option ServiceId}
    {entry : Introduction} (known : registry.addresses[address]? = some entry)
    (settled : entry = ⟨some member, service⟩ ∨ ¬registry.Unbacked entry) :
    registry.introduced member address service = registry := by
  unfold introduced
  split
  · rename_i recorded
    have unbacked := (takesIntroduction_iff_unbacked known).1 recorded.2
    have same := settled.resolve_right (not_not_intro unbacked)
    subst same
    ext1
    · refine Std.ExtTreeMap.ext_getElem? fun other => ?_
      rw [Std.ExtTreeMap.getElem?_insert]
      by_cases here : address = other
      · subst here
        simp [known]
      · simp [here]
    all_goals rfl
  · rfl

theorem unbacked_discover {peer : Peer} {address : Address} {service : Option ServiceId}
    {entry : Introduction} (unbacked : (registry.discover peer address service).Unbacked entry) :
    registry.Unbacked entry := by
  rcases unbacked with nobody | ⟨introducer, backed, stranger⟩
  · exact .inl nobody
  · refine .inr ⟨introducer, backed, fun verified => stranger ?_⟩
    have additive : (Operation.discover peer address service).IsAdditive := trivial
    exact stays_verified_apply additive verified

/-- Whatever became of the introduction, it is not taken in another way again: either its entry
was written, or the entry was kept for its introducer, who is verified still. -/
theorem introduced_discover_self (peer : Peer) (address : Address) (service : Option ServiceId) :
    (registry.discover peer address service).introduced peer.memberId address service =
      registry.discover peer address service := by
  classical
  by_cases admitted : registry.admits address
  · cases known : registry.addresses[address]? with
    | none =>
        have taken : registry.takesIntroduction address = true := by
          rw [takesIntroduction, known]
        have written : (registry.introduced peer.memberId address service).addresses[address]? =
            some ⟨some peer.memberId, service⟩ := by
          rw [getElem?_addresses_introduced, if_pos ⟨rfl, admitted, taken⟩]
        have kept := entry_verify peer written
        rw [← discover_eq] at kept
        exact introduced_eq_self _ kept (.inl rfl)
    | some entry =>
        have after := entry_discover peer address service known
        by_cases unbacked : registry.Unbacked entry
        · rw [if_pos ⟨rfl, admitted, unbacked⟩] at after
          exact introduced_eq_self _ after (.inl rfl)
        · rw [if_neg (fun all => unbacked all.2.2)] at after
          exact introduced_eq_self _ after (.inr (mt registry.unbacked_discover unbacked))
  · have refused : ¬(registry.discover peer address service).admits address := by
      rw [admits_congr (registry.blockedAddresses_discover peer address service)]
      exact admitted
    rw [introduced, if_neg (fun both => refused both.1)]

theorem verify_discover (peer : Peer) (address : Address) (service : Option ServiceId) :
    (registry.discover peer address service).verify peer =
      registry.discover peer address service := by
  rw [discover_eq, verify_verify]

theorem discover_discover (peer : Peer) (address : Address) (service : Option ServiceId) :
    (registry.discover peer address service).discover peer address service =
      registry.discover peer address service := by
  rw [discover_eq (registry.discover peer address service), introduced_discover_self,
    verify_discover]

theorem apply_apply_of_shown {operation : Operation} {peer : Peer}
    (shown : operation.shown? = some peer) :
    (registry.apply operation).apply operation = registry.apply operation := by
  cases operation with
  | verify observed => exact registry.verify_verify observed
  | discover introducer address service =>
      exact registry.discover_discover introducer address service
  | _ => cases shown

theorem run_replicate_of_shown {operation : Operation} {peer : Peer}
    (shown : operation.shown? = some peer) (more : Nat) :
    registry.run (List.replicate (more + 1) operation) = registry.apply operation := by
  induction more generalizing registry with
  | zero => rfl
  | succ more ih =>
      rw [List.replicate_succ, run_cons, ih, apply_apply_of_shown registry shown]

/-- What is shown to a registry twice or more often leaves what it leaves when it is shown once. -/
structure AbsorbsRepetition (registry : Registry) : Prop where
  verifying : ∀ peer, (registry.verify peer).verify peer = registry.verify peer
  discovering : ∀ (peer : Peer) (address : Address) (service : Option ServiceId),
    (registry.discover peer address service).discover peer address service =
      registry.discover peer address service
  introducing : ∀ (peer : Peer) (address : Address) (service : Option ServiceId),
    (registry.discover peer address service).verify peer =
      registry.discover peer address service
  repeating : ∀ (operation : Operation) (peer : Peer) (more : Nat),
    operation.shown? = some peer →
      registry.run (List.replicate (more + 1) operation) = registry.apply operation

/-- Every registry does so, whatever was done to it before. -/
theorem absorbsRepetition (registry : Registry) : registry.AbsorbsRepetition where
  verifying := registry.verify_verify
  discovering := registry.discover_discover
  introducing := registry.verify_discover
  repeating _ _ more shown := registry.run_replicate_of_shown shown more

end Registry

end PeerDiscovery
