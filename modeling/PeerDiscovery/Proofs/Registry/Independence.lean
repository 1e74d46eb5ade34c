import PeerDiscovery.Proofs.Registry.Operation
import PeerDiscovery.Proofs.Registry.Records

/-!
# Members are dealt with in any order

A peer that is verified, a clock that moves on and services that are advertised each concern one
member.  Such an operation looks at the record and the services of its member, at the blocks, and,
where an address is blocked, at whether it is known; and nothing else than that record, those
services and one address that is not blocked is changed by it.  So it does not matter to an
operation on one member what is done on another one first, and the order in which the packets of
different members are handled leaves no trace.
-/

namespace PeerDiscovery

namespace Registry

/-- The member that an operation concerns, if it concerns one alone. -/
def Operation.member? : Operation → Option MemberId
  | verify peer => some peer.memberId
  | addServices member _ => some member
  | updateClock member _ _ => some member
  | _ => none

/-- Two operations that concern one member each, and not the same one. -/
def Operation.Apart (first second : Operation) : Prop :=
  ∃ one other, first.member? = some one ∧ second.member? = some other ∧ one ≠ other

theorem Operation.Apart.symm {first second : Operation} (apart : first.Apart second) :
    second.Apart first := by
  obtain ⟨one, other, concerns, concernsOther, differ⟩ := apart
  exact ⟨other, one, concernsOther, concerns, Ne.symm differ⟩

/-- Registries in which an operation on a member finds the same. -/
structure Alike (member : MemberId) (registry other : Registry) : Prop where
  record : other.verified[member]? = registry.verified[member]?
  services : other.services[member]? = registry.services[member]?
  blockedAddresses : other.blockedAddresses = registry.blockedAddresses
  blockedMembers : other.blockedMembers = registry.blockedMembers
  barred : ∀ address, registry.isBlocked address = true →
    (address ∈ other.addresses ↔ address ∈ registry.addresses)

/-- Whether an operation makes sure that an address is known. -/
def remembers (registry : Registry) (operation : Operation) (address : Address) : Prop :=
  match operation with
  | .verify peer => peer.address = address ∧ registry.admits peer.address ∧ registry.takes peer
  | _ => False

instance (registry : Registry) (operation : Operation) (address : Address) :
    Decidable (registry.remembers operation address) :=
  match operation with
  | .verify _ => inferInstanceAs (Decidable (_ ∧ _))
  | .discover .. | .addServices .. | .forgetAddress _ | .forgetPeer _ | .blockAddress _
  | .blockMember _ | .markSent .. | .markHeard .. | .updateClock .. => .isFalse id

namespace Alike

variable {member : MemberId} {registry other third : Registry} {operation : Operation}

theorem symm (alike : Alike member registry other) : Alike member other registry where
  record := alike.record.symm
  services := alike.services.symm
  blockedAddresses := alike.blockedAddresses.symm
  blockedMembers := alike.blockedMembers.symm
  barred address blocked := by
    rw [isBlocked, alike.blockedAddresses] at blocked
    exact (alike.barred address blocked).symm

theorem trans (left : Alike member registry other) (right : Alike member other third) :
    Alike member registry third where
  record := right.record.trans left.record
  services := right.services.trans left.services
  blockedAddresses := right.blockedAddresses.trans left.blockedAddresses
  blockedMembers := right.blockedMembers.trans left.blockedMembers
  barred address blocked := by
    have blockedThen : other.isBlocked address = true := by
      rw [isBlocked, left.blockedAddresses]
      exact blocked
    exact (right.barred address blockedThen).trans (left.barred address blocked)

theorem takes_iff {peer : Peer} (alike : Alike peer.memberId registry other) :
    other.takes peer ↔ registry.takes peer := by
  have verified : peer.memberId ∈ other.verified ↔ peer.memberId ∈ registry.verified := by
    rw [Std.ExtTreeMap.mem_iff_isSome_getElem?, Std.ExtTreeMap.mem_iff_isSome_getElem?,
      alike.record]
  have block : other.isBlocked peer.address = registry.isBlocked peer.address := by
    rw [isBlocked, isBlocked, alike.blockedAddresses]
  unfold takes
  rw [alike.blockedMembers, verified, block]
  cases blocked : registry.isBlocked peer.address with
  | true => rw [alike.barred peer.address blocked]
  | false => simp

theorem recordOf_eq {peer : Peer} (alike : Alike peer.memberId registry other) :
    other.recordOf peer = registry.recordOf peer := by
  unfold recordOf screened isBlocked
  rw [alike.record, alike.blockedAddresses]

theorem remembers_iff (alike : Alike member registry other)
    (concerns : operation.member? = some member) (address : Address) :
    other.remembers operation address ↔ registry.remembers operation address := by
  cases operation with
  | verify peer =>
      cases concerns
      simp only [remembers, alike.takes_iff, admits_congr alike.blockedAddresses]
  | _ => exact Iff.rfl

end Alike

variable {registry : Registry} {operation : Operation} {member : MemberId}

theorem getElem?_addresses_apply (concerns : operation.member? = some member)
    (address : Address) :
    (registry.apply operation).addresses[address]? =
      if registry.remembers operation address then
        some (registry.addresses[address]?.getD .direct)
      else registry.addresses[address]? := by
  cases operation with
  | verify peer => exact registry.getElem?_addresses_verify peer address
  | addServices member services => rfl
  | updateClock member time now =>
      exact congrArg (·[address]?) (registry.addresses_updateClock member time now)
  | _ => cases concerns

theorem blocks_apply (concerns : operation.member? = some member) :
    (registry.apply operation).blockedAddresses = registry.blockedAddresses ∧
      (registry.apply operation).blockedMembers = registry.blockedMembers := by
  cases operation with
  | verify peer =>
      exact ⟨registry.blockedAddresses_verify peer, registry.blockedMembers_verify peer⟩
  | addServices known services => exact ⟨rfl, rfl⟩
  | updateClock known time now =>
      exact ⟨registry.blockedAddresses_updateClock known time now,
        registry.blockedMembers_updateClock known time now⟩
  | _ => cases concerns

/-- Only addresses that are not blocked become known. -/
theorem barred_apply (concerns : operation.member? = some member) {address : Address}
    (blocked : registry.isBlocked address = true) :
    address ∈ (registry.apply operation).addresses ↔ address ∈ registry.addresses := by
  have unremembered : ¬registry.remembers operation address := by
    cases operation with
    | verify peer =>
        rintro ⟨rfl, admitted, -⟩
        exact absurd blocked (by simp [admitted.2])
    | _ => exact id
  rw [Std.ExtTreeMap.mem_iff_isSome_getElem?, Std.ExtTreeMap.mem_iff_isSome_getElem?,
    getElem?_addresses_apply concerns, if_neg unremembered]

/-- An operation on one member changes nothing that matters to another one. -/
theorem alike_apply (concerns : operation.member? = some member) {other : MemberId}
    (differ : other ≠ member) : Alike other registry (registry.apply operation) where
  record := by
    cases operation with
    | verify peer =>
        cases concerns
        exact (registry.getElem?_verified_verify peer other).trans
          (if_neg fun both => differ both.1.symm)
    | addServices known services => rfl
    | updateClock known time now =>
        cases concerns
        exact (registry.getElem?_verified_updateClock member other time now).trans
          (if_neg (Ne.symm differ))
    | _ => cases concerns
  services := by
    cases operation with
    | verify peer => exact congrArg (·[other]?) (registry.services_verify peer)
    | addServices known services =>
        cases concerns
        exact (registry.getElem?_services_addServices member other services).trans
          (if_neg (Ne.symm differ))
    | updateClock known time now =>
        exact congrArg (·[other]?) (registry.services_updateClock known time now)
    | _ => cases concerns
  blockedAddresses := (blocks_apply concerns).1
  blockedMembers := (blocks_apply concerns).2
  barred _ blocked := barred_apply concerns blocked

/-- What an operation makes of its member depends on nothing but what it finds there. -/
theorem Alike.apply {other : Registry} (alike : Alike member registry other)
    (concerns : operation.member? = some member) :
    Alike member (registry.apply operation) (other.apply operation) where
  record := by
    cases operation with
    | verify peer =>
        cases concerns
        simp only [Registry.apply, getElem?_verified_verify, alike.takes_iff, alike.recordOf_eq,
          alike.record]
    | addServices known services => exact alike.record
    | updateClock known time now =>
        cases concerns
        simp only [Registry.apply, getElem?_verified_updateClock, alike.record]
    | _ => cases concerns
  services := by
    cases operation with
    | verify peer =>
        simp only [Registry.apply, services_verify, alike.services]
    | addServices known services =>
        cases concerns
        simp only [Registry.apply, getElem?_services_addServices, alike.services]
    | updateClock known time now =>
        simp only [Registry.apply, services_updateClock, alike.services]
    | _ => cases concerns
  blockedAddresses := by
    rw [(blocks_apply concerns).1, (blocks_apply concerns).1, alike.blockedAddresses]
  blockedMembers := by
    rw [(blocks_apply concerns).2, (blocks_apply concerns).2, alike.blockedMembers]
  barred address blocked := by
    have before : registry.isBlocked address = true := by
      rw [isBlocked, (blocks_apply concerns).1] at blocked
      exact blocked
    have elsewhere : other.isBlocked address = true := by
      rw [isBlocked, alike.blockedAddresses]
      exact before
    rw [barred_apply concerns elsewhere, barred_apply concerns before]
    exact alike.barred address before

section Two

variable {first second : Operation} {one other : MemberId}

/-- To every member but the second one, and so to that as well, both orders are alike. -/
private theorem alike_swap_of_ne (concerns : first.member? = some one)
    (concernsOther : second.member? = some other) (differ : one ≠ other) {anyone : MemberId}
    (notOther : anyone ≠ other) :
    Alike anyone ((registry.apply first).apply second) ((registry.apply second).apply first) := by
  have undone : Alike anyone ((registry.apply first).apply second) (registry.apply first) :=
    (alike_apply concernsOther notOther).symm
  refine undone.trans ?_
  by_cases itself : anyone = one
  · -- the first operation finds the same, whether or not the second one came before it
    subst itself
    exact (alike_apply concernsOther differ).apply concerns
  · have unconcerned : Alike anyone (registry.apply first) registry :=
      (alike_apply concerns itself).symm
    have after : Alike anyone registry (registry.apply second) :=
      alike_apply concernsOther notOther
    exact unconcerned.trans (after.trans (alike_apply concerns itself))

theorem alike_swap (concerns : first.member? = some one)
    (concernsOther : second.member? = some other) (differ : one ≠ other) (anyone : MemberId) :
    Alike anyone ((registry.apply first).apply second) ((registry.apply second).apply first) := by
  by_cases notOther : anyone = other
  · have notOne : anyone ≠ one := by
      rw [notOther]
      exact Ne.symm differ
    exact (alike_swap_of_ne concernsOther concerns (Ne.symm differ) notOne).symm
  · exact alike_swap_of_ne concerns concernsOther differ notOther

theorem addresses_swap (concerns : first.member? = some one)
    (concernsOther : second.member? = some other) (differ : one ≠ other) :
    ((registry.apply first).apply second).addresses =
      ((registry.apply second).apply first).addresses := by
  refine Std.ExtTreeMap.ext_getElem? fun address => ?_
  have early : (registry.apply first).remembers second address ↔
      registry.remembers second address :=
    (alike_apply concerns (Ne.symm differ)).remembers_iff concernsOther address
  have late : (registry.apply second).remembers first address ↔
      registry.remembers first address :=
    (alike_apply concernsOther differ).remembers_iff concerns address
  -- an address that both make sure of is seen directly by whichever comes first
  simp only [getElem?_addresses_apply concerns, getElem?_addresses_apply concernsOther, early, late]
  by_cases byFirst : registry.remembers first address <;>
    by_cases bySecond : registry.remembers second address <;> simp [byFirst, bySecond]

theorem apply_comm_of_apart (apart : first.Apart second) :
    (registry.apply first).apply second = (registry.apply second).apply first := by
  obtain ⟨one, other, concerns, concernsOther, differ⟩ := apart
  have alike : ∀ anyone, Alike anyone ((registry.apply first).apply second)
      ((registry.apply second).apply first) := alike_swap concerns concernsOther differ
  ext1
  · exact addresses_swap concerns concernsOther differ
  · exact Std.ExtTreeMap.ext_getElem? fun member => (alike member).record.symm
  · exact Std.ExtTreeMap.ext_getElem? fun member => (alike member).services.symm
  · exact (alike one).blockedAddresses.symm
  · exact (alike one).blockedMembers.symm

end Two

theorem run_perm {operations others : List Operation} (perm : operations.Perm others)
    (apart : operations.Pairwise Operation.Apart) :
    registry.run operations = registry.run others := by
  induction perm generalizing registry with
  | nil => rfl
  | cons operation perm ih => exact ih (List.pairwise_cons.1 apart).2
  | swap first second later =>
      have pair : second.Apart first :=
        (List.pairwise_cons.1 apart).1 first List.mem_cons_self
      simp only [run_cons, apply_comm_of_apart pair]
  | trans left right ih ihRight =>
      exact (ih apart).trans (ihRight ((left.pairwise_iff fun pair => pair.symm).1 apart))

/-- An operation may be moved to the front of all that concerns other members. -/
theorem run_apply_of_apart {operation : Operation} {earlier : List Operation}
    (apart : ∀ other ∈ earlier, other.Apart operation) :
    (registry.run earlier).apply operation = (registry.apply operation).run earlier := by
  induction earlier generalizing registry with
  | nil => rfl
  | cons first earlier ih =>
      have pair := apart first List.mem_cons_self
      rw [run_cons, run_cons, ih fun other listed => apart other (List.mem_cons_of_mem _ listed),
        apply_comm_of_apart pair]

/-- What concerns one member in a list of operations. -/
def share (member : MemberId) (operations : List Operation) : List Operation :=
  operations.filter fun operation => operation.member? == some member

/-- Where all shares agree, the first operation of one list is found in the other, behind
operations that do not concern its member. -/
theorem exists_split_of_share {operation : Operation} {operations others : List Operation}
    (concerns : operation.member? = some member)
    (same : ∀ anyone, share anyone (operation :: operations) = share anyone others) :
    ∃ earlier later, others = earlier ++ operation :: later ∧
      (∀ other ∈ earlier, other.member? ≠ some member) ∧
      ∀ anyone, share anyone operations = share anyone (earlier ++ later) := by
  have shares := same member
  simp only [share, List.filter_cons, concerns, beq_self_eq_true, if_true] at shares
  obtain ⟨earlier, later, rfl, foreign, -, rest⟩ := List.filter_eq_cons_iff.1 shares.symm
  refine ⟨earlier, later, rfl, by simpa using foreign, fun anyone => ?_⟩
  have both := same anyone
  unfold share at both ⊢
  rw [List.filter_append, List.filter_cons, List.filter_cons] at both
  rw [List.filter_append]
  by_cases itself : operation.member? == some anyone
  · have here : member = anyone := by simpa [concerns] using itself
    subst here
    have none : earlier.filter (fun other => other.member? == some member) = [] :=
      List.filter_eq_nil_iff.2 foreign
    rw [none, List.nil_append]
    exact rest.symm
  · rwa [if_neg itself, if_neg itself] at both

/-- What is done on each member, in which order, is all that counts: how the shares of different
members are mixed does not. -/
theorem run_eq_of_share {operations others : List Operation}
    (personal : ∀ operation ∈ operations, operation.member?.isSome)
    (personalOthers : ∀ operation ∈ others, operation.member?.isSome)
    (same : ∀ member, share member operations = share member others) :
    registry.run operations = registry.run others := by
  induction operations generalizing registry others with
  | nil =>
      cases others with
      | nil => rfl
      | cons first later =>
          obtain ⟨member, concerns⟩ :=
            Option.isSome_iff_exists.1 (personalOthers first List.mem_cons_self)
          have shares := same member
          simp [share, concerns] at shares
  | cons operation operations ih =>
      obtain ⟨member, concerns⟩ :=
        Option.isSome_iff_exists.1 (personal operation List.mem_cons_self)
      obtain ⟨earlier, later, rfl, foreign, rest⟩ := exists_split_of_share concerns same
      have apart : ∀ other ∈ earlier, other.Apart operation := by
        intro other listed
        obtain ⟨another, concernsOther⟩ :=
          Option.isSome_iff_exists.1 (personalOthers other (List.mem_append_left _ listed))
        refine ⟨another, member, concernsOther, concerns, ?_⟩
        rintro rfl
        exact foreign other listed concernsOther
      have personalRest : ∀ other ∈ earlier ++ later, other.member?.isSome := by
        intro other listed
        refine personalOthers other (List.mem_append.2 ?_)
        exact (List.mem_append.1 listed).imp_right (List.mem_cons_of_mem operation)
      calc registry.run (operation :: operations)
          = (registry.apply operation).run (earlier ++ later) :=
            ih (fun other listed => personal other (List.mem_cons_of_mem _ listed))
              personalRest rest
        _ = ((registry.run earlier).apply operation).run later := by
            rw [run_append, run_apply_of_apart apart]
        _ = registry.run (earlier ++ operation :: later) := by
            rw [run_append, run_cons]

/-- Operations on different members leave the same registry in every order. -/
structure IgnoresOrder (registry : Registry) : Prop where
  swapping : ∀ first second : Operation, first.Apart second →
    (registry.apply first).apply second = (registry.apply second).apply first
  permuting : ∀ operations others : List Operation, operations.Pairwise Operation.Apart →
    operations.Perm others → registry.run operations = registry.run others
  mixing : ∀ operations others : List Operation,
    (∀ operation ∈ operations ++ others, operation.member?.isSome) →
    (∀ member, share member operations = share member others) →
      registry.run operations = registry.run others

theorem ignoresOrder (registry : Registry) : registry.IgnoresOrder where
  swapping _ _ := apply_comm_of_apart
  permuting _ _ apart perm := run_perm perm apart
  mixing operations others personal same := by
    refine run_eq_of_share (fun operation listed => ?_) (fun operation listed => ?_) same
    · exact personal operation (List.mem_append_left others listed)
    · exact personal operation (List.mem_append_right operations listed)

end Registry

end PeerDiscovery
