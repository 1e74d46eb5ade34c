import PeerDiscovery.Proofs.Registry.Records

/-!
# The clocks of members

A time heard from a member moves the clock of the member forward, and no other
clock.  Hearing it again changes nothing: a handler may move the clock of a verified
signer first, and verify the signer with the same time afterwards.
-/

namespace PeerDiscovery

namespace Registry

/-- The highest global time seen from a verified member. -/
def clock? (registry : Registry) (member : MemberId) : Option UInt64 :=
  registry.verified[member]?.map Peer.clock

def SameClocks (registry other : Registry) : Prop :=
  ∀ member, other.clock? member = registry.clock? member

/-- The clock of a member that is verified after a time was heard from it. -/
def clockAfter (clock? : Option UInt64) (time : UInt64) : UInt64 := clock?.elim time (max · time)

/-- Nothing changes but perhaps the clock of a member, by a time heard from it, or that
this member is verified. -/
structure MayAdvance (member : MemberId) (time : UInt64) (registry other : Registry) :
    Prop where
  elsewhere : ∀ another, another ≠ member → other.clock? another = registry.clock? another
  here : other.clock? member = registry.clock? member ∨
    other.clock? member = some (clockAfter (registry.clock? member) time)

/-- The clock does move if the member is verified already. -/
structure Advances (member : MemberId) (time : UInt64) (registry other : Registry) : Prop
    extends MayAdvance member time registry other where
  known : ∀ clock, registry.clock? member = some clock →
    other.clock? member = some (max clock time)

theorem max_clock_eq (clock time : UInt64) :
    max clock time = if clock ≤ time then time else clock := rfl

theorem clockAfter_clockAfter (clock? : Option UInt64) (time : UInt64) :
    clockAfter (some (clockAfter clock? time)) time = clockAfter clock? time := by
  cases clock? with
  | none =>
      change max time time = time
      grind [max_clock_eq]
  | some clock =>
      change max (max clock time) time = max clock time
      grind [max_clock_eq]

namespace SameClocks

theorem refl (registry : Registry) : SameClocks registry registry := fun _ => rfl

theorem trans {first second third : Registry} (left : SameClocks first second)
    (right : SameClocks second third) : SameClocks first third :=
  fun member => (right member).trans (left member)

theorem of_sameButMarks {registry other : Registry} (same : SameButMarks registry other) :
    SameClocks registry other := by
  intro member
  have both := congrArg (Option.map Peer.clock) (same.verified member)
  rw [Option.map_map, Option.map_map] at both
  exact both

theorem mayAdvance {registry other : Registry} (same : SameClocks registry other)
    (member : MemberId) (time : UInt64) : MayAdvance member time registry other :=
  ⟨fun another _ => same another, .inl (same member)⟩

end SameClocks

variable {member : MemberId} {time : UInt64} {first second third : Registry}

theorem MayAdvance.trans (left : MayAdvance member time first second)
    (right : MayAdvance member time second third) : MayAdvance member time first third where
  elsewhere another differs :=
    (right.elsewhere another differs).trans (left.elsewhere another differs)
  here := by
    rcases left.here, right.here with ⟨stays | moves, staysThen | movesThen⟩
    · exact .inl (staysThen.trans stays)
    · rw [stays] at movesThen
      exact .inr movesThen
    · exact .inr (staysThen.trans moves)
    · rw [moves, clockAfter_clockAfter] at movesThen
      exact .inr movesThen

/-- A member that was not verified starts with the time heard from it. -/
theorem MayAdvance.new (advance : MayAdvance member time first second) {clock : UInt64}
    (stranger : first.clock? member = none) (verified : second.clock? member = some clock) :
    clock = time := by
  rcases advance.here with stays | moves
  · cases verified.symm.trans (stays.trans stranger)
  · rw [verified, stranger] at moves
    exact Option.some.inj moves

theorem Advances.of_same (left : SameClocks first second)
    (right : Advances member time second third) : Advances member time first third where
  toMayAdvance := (left.mayAdvance member time).trans right.toMayAdvance
  known clock before := right.known clock ((left member).trans before)

theorem Advances.again (left : Advances member time first second)
    (right : MayAdvance member time second third) : Advances member time first third where
  toMayAdvance := left.toMayAdvance.trans right
  known clock before := by
    have moved := left.known clock before
    rcases right.here with stays | moves
    · exact stays.trans moved
    · rw [moves, moved]
      change some (max (max clock time) time) = some (max clock time)
      grind [max_clock_eq]

variable (registry : Registry)

theorem clock?_updateClock (member other : MemberId) (time : UInt64) (now : Instant) :
    (registry.updateClock member time now).clock? other =
      if member = other then (registry.clock? other).map (max · time)
      else registry.clock? other := by
  unfold clock?
  rw [getElem?_verified_updateClock]
  split
  · rw [Option.map_map, Option.map_map]
    rfl
  · rfl

theorem advances_updateClock (member : MemberId) (time : UInt64) (now : Instant) :
    Advances member time registry (registry.updateClock member time now) where
  elsewhere another differs := by
    rw [clock?_updateClock, if_neg (Ne.symm differs)]
  here := by
    rw [clock?_updateClock, if_pos rfl]
    cases registry.clock? member with
    | none => exact .inl rfl
    | some clock => exact .inr rfl
  known clock before := by
    rw [clock?_updateClock, if_pos rfl, before]
    rfl

theorem clock_recordOf (peer : Peer) :
    (registry.recordOf peer).clock = clockAfter (registry.clock? peer.memberId) peer.clock := by
  unfold recordOf clock?
  cases registry.verified[peer.memberId]? with
  | none => rfl
  | some known =>
      rw [screened_eq]
      rfl

theorem mayAdvance_verify (peer : Peer) :
    MayAdvance peer.memberId peer.clock registry (registry.verify peer) where
  elsewhere another differs := by
    unfold clock?
    rw [getElem?_verified_verify, if_neg (fun both => differs both.1.symm)]
  here := by
    by_cases taken : registry.takes peer
    · right
      unfold clock?
      rw [getElem?_verified_verify, if_pos ⟨rfl, taken⟩, Option.map_some, clock_recordOf]
      rfl
    · left
      unfold clock?
      rw [getElem?_verified_verify, if_neg (fun both => taken both.2)]

theorem mayAdvance_discover (peer : Peer) (address : Address) (service : Option ServiceId) :
    MayAdvance peer.memberId peer.clock registry (registry.discover peer address service) := by
  have same : SameClocks registry (registry.introduced peer.memberId address service) := by
    intro member
    unfold clock?
    rw [verified_introduced]
  rw [discover_eq]
  exact (same.mayAdvance _ _).trans (mayAdvance_verify _ peer)

/-- Nobody is lost with an address at which nobody is verified. -/
theorem sameClocks_forgetAddress {address : Address}
    (vacant : registry.isOccupied address = false) :
    SameClocks registry (registry.forgetAddress address) := by
  intro member
  have nobody : ∀ peer : Peer, registry.verified[member]? = some peer →
      peer.address ≠ address := by
    intro peer stored there
    have occupied := (registry.isOccupied_iff address).2 ⟨member, peer, stored, there⟩
    rw [vacant] at occupied
    cases occupied
  have same : (registry.forgetAddress address).verified[member]? =
      registry.verified[member]? := by
    refine Option.ext fun peer => ?_
    rw [getElem?_verified_forgetAddress]
    exact ⟨And.left, fun stored => ⟨stored, .inr (nobody peer stored)⟩⟩
  unfold clock?
  rw [same]

end Registry

end PeerDiscovery
