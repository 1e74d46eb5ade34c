import PeerDiscovery.Proofs.Registry.Tables

/-!
# Properties of all records

A property of records that new observations have, and that merging keeps, is a
property of every record of the registry.  This file gives the obligations of
each operation.  A property may depend on the member under which the record
stands.
-/

namespace PeerDiscovery

namespace Registry

/-- Every record of a verified peer has a property. -/
def Records (registry : Registry) (holds : MemberId → Peer → Prop) : Prop :=
  ∀ (member : MemberId) (peer : Peer), registry.verified[member]? = some peer →
    holds member peer

namespace Records

variable {registry other : Registry} {holds : MemberId → Peer → Prop}

theorem imp {weaker : MemberId → Peer → Prop} (records : Records registry holds)
    (implies : ∀ (member : MemberId) (peer : Peer), holds member peer → weaker member peer) :
    Records registry weaker :=
  fun member peer stored => implies member peer (records member peer stored)

theorem congr (records : Records registry holds) (same : other.verified = registry.verified) :
    Records other holds := by
  intro member peer stored
  rw [same] at stored
  exact records member peer stored

/-- A property that does not look at marks is kept when marks are set. -/
theorem sameButMarks (records : Records registry holds)
    (same : SameButMarks registry other)
    (unmarked : ∀ (member : MemberId) (first second : Peer), first.unmarked = second.unmarked →
      holds member first → holds member second) :
    Records other holds := by
  intro member peer stored
  obtain ⟨before, known, marksOnly⟩ := same.exists_unmarked stored
  exact unmarked member before peer marksOnly (records member before known)

/-- Verifying leaves a record of a member that was not known, or merges the
observed peer into the record of one that was. -/
theorem verify (records : Records registry holds) {observed : Peer}
    (new : registry.takes observed → registry.verified[observed.memberId]? = none →
      holds observed.memberId observed)
    (merged : ∀ known : Peer, registry.takes observed →
      registry.verified[observed.memberId]? = some known →
      holds observed.memberId (known.merge (registry.screened observed))) :
    Records (registry.verify observed) holds := by
  intro member peer stored
  rw [getElem?_verified_verify] at stored
  split at stored
  · rename_i taken
    obtain ⟨rfl, taken⟩ := taken
    cases stored
    unfold recordOf
    cases found : registry.verified[observed.memberId]? with
    | none => exact new taken found
    | some known => exact merged known taken found
  · exact records member peer stored

theorem forgetAddress (records : Records registry holds) (address : Address) :
    Records (registry.forgetAddress address) holds := by
  intro member peer stored
  have before := (registry.getElem?_verified_forgetAddress address member peer).1 stored
  exact records member peer before.1

theorem updateClock (records : Records registry holds) {member : MemberId} {time : UInt64}
    {now : Instant}
    (moved : ∀ peer : Peer, holds member peer → holds member (peer.updateClock time now)) :
    Records (registry.updateClock member time now) holds := by
  intro other peer stored
  rw [getElem?_verified_updateClock] at stored
  split at stored
  · rename_i same
    subst same
    obtain ⟨before, found, rfl⟩ := Option.map_eq_some_iff.1 stored
    exact moved before (records member before found)
  · exact records other peer stored

end Records

theorem SameButMarks.mem_verified {registry other : Registry} (same : SameButMarks registry other)
    (member : MemberId) : member ∈ other.verified ↔ member ∈ registry.verified := by
  have both := congrArg Option.isSome (same.verified member)
  simp only [Option.isSome_map] at both
  rw [Std.ExtTreeMap.mem_iff_isSome_getElem?, Std.ExtTreeMap.mem_iff_isSome_getElem?, both]

@[simp]
theorem mem_verified_updateClock (registry : Registry) (member other : MemberId) (time : UInt64)
    (now : Instant) :
    other ∈ (registry.updateClock member time now).verified ↔ other ∈ registry.verified := by
  rw [Std.ExtTreeMap.mem_iff_isSome_getElem?, Std.ExtTreeMap.mem_iff_isSome_getElem?,
    getElem?_verified_updateClock]
  split
  · rw [Option.isSome_map]
  · exact Iff.rfl

end Registry

end PeerDiscovery
