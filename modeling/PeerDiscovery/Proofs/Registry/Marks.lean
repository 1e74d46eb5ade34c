import PeerDiscovery.Proofs.Registry.Consistency
import PeerDiscovery.Proofs.Registry.Records

/-!
# Marks are carried along

Registries that differ in marks only still do so after the same change, because no change
but a mark looks at the marks.  So the marks that a packet leaves on its way may be left out of
account until the end.
-/

namespace PeerDiscovery

namespace Peer

theorem unmarked_merge (known observed : Peer) :
    (known.merge observed).unmarked = (known.unmarked.merge observed).unmarked := rfl

end Peer

namespace Registry

namespace SameButMarks

variable {registry other : Registry} (same : SameButMarks registry other)

include same

theorem isBlocked_eq (address : Address) : other.isBlocked address = registry.isBlocked address := by
  rw [isBlocked, isBlocked, same.blockedAddresses]

theorem advertises_eq (member : MemberId) (service : ServiceId) :
    other.advertises member service = registry.advertises member service :=
  advertises_congr same.services member service

theorem takes_iff (peer : Peer) : other.takes peer ↔ registry.takes peer := by
  unfold takes
  rw [same.blockedMembers, same.mem_verified, same.addresses, same.isBlocked_eq]

theorem addresses_rememberAddress (address : Address) :
    (other.rememberAddress address).addresses = (registry.rememberAddress address).addresses := by
  unfold rememberAddress
  rw [same.isBlocked_eq]
  split
  · exact same.addresses
  · rw [same.addresses]

theorem unmarked_recordOf (peer : Peer) :
    (other.recordOf peer).unmarked = (registry.recordOf peer).unmarked := by
  have both := same.verified peer.memberId
  have screened : other.screened peer = registry.screened peer := by
    rw [Registry.screened, Registry.screened, same.isBlocked_eq]
  unfold recordOf
  cases found : registry.verified[peer.memberId]? with
  | none =>
      rw [found, Option.map_none, Option.map_eq_none_iff] at both
      rw [both]
  | some known =>
      rw [found, Option.map_some, Option.map_eq_some_iff] at both
      obtain ⟨marked, there, unmarked⟩ := both
      rw [there]
      dsimp only
      rw [Peer.unmarked_merge, unmarked, screened, ← Peer.unmarked_merge]

theorem verify (peer : Peer) : SameButMarks (registry.verify peer) (other.verify peer) := by
  rw [verify_eq, verify_eq]
  by_cases taken : registry.takes peer
  · rw [if_pos taken, if_pos ((same.takes_iff peer).2 taken)]
    refine ⟨same.addresses_rememberAddress peer.address, ?_, ?_, ?_, ?_⟩
    · simpa using same.services
    · simpa using same.blockedAddresses
    · simpa using same.blockedMembers
    · intro member
      rw [getElem?_verified_setPeer, getElem?_verified_setPeer]
      split
      · exact congrArg some (same.unmarked_recordOf peer)
      · simpa using same.verified member
  · rw [if_neg taken, if_neg (mt (same.takes_iff peer).1 taken)]
    exact same

theorem addServices (member : MemberId) (services : List ServiceId) :
    SameButMarks (registry.addServices member services) (other.addServices member services) where
  addresses := same.addresses
  services := by
    unfold Registry.addServices servicesOf
    rw [same.services]
  blockedAddresses := same.blockedAddresses
  blockedMembers := same.blockedMembers
  verified := same.verified

theorem updateClock (member : MemberId) (time : UInt64) (now : Instant) :
    SameButMarks (registry.updateClock member time now) (other.updateClock member time now) where
  addresses := by simpa using same.addresses
  services := by simpa using same.services
  blockedAddresses := by simpa using same.blockedAddresses
  blockedMembers := by simpa using same.blockedMembers
  verified found := by
    rw [getElem?_verified_updateClock, getElem?_verified_updateClock]
    split
    · have both := congrArg (Option.map fun peer => (peer.updateClock time now).unmarked)
        (same.verified found)
      rw [Option.map_map, Option.map_map] at both
      rw [Option.map_map, Option.map_map]
      exact both
    · exact same.verified found

end SameButMarks

end Registry

end PeerDiscovery
