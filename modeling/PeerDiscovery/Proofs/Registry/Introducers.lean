import PeerDiscovery.Proofs.Registry.Consistency
import PeerDiscovery.Proofs.Registry.Introductions
import PeerDiscovery.Proofs.Registry.Observation

/-!
# Introducers are sticky

The entry of a known address says who introduced it.  While the address stays known, nothing but
another introduction of this very address writes a new entry, and only if nobody that is verified
at that moment stands behind the old one.  Verifying a peer remembers its address, but leaves the
entry of a known address as it is.

So an entry lasts as long as its introducer stays verified and the address known: in particular
until the first time that something is forgotten.
-/

namespace PeerDiscovery

namespace Registry

/-- Nobody verified stands behind an entry: the address was seen directly, or its introducer is
not verified. -/
def Unbacked (registry : Registry) (entry : Introduction) : Prop :=
  entry.introducer = none ∨
    ∃ introducer, entry.introducer = some introducer ∧ introducer ∉ registry.verified

/-- An operation that makes the registry forget nothing. -/
def Operation.IsAdditive : Operation → Prop
  | forgetAddress _ | forgetPeer _ => False
  | _ => True

/-- Who introduced an address is kept, whatever is done to the registry. -/
structure Sticky (registry : Registry) : Prop where
  changed : ∀ (operation : Operation) (address : Address) (before after : Introduction),
    registry.addresses[address]? = some before →
    (registry.apply operation).addresses[address]? = some after → after ≠ before →
      ∃ (peer : Peer) (service : Option ServiceId),
        operation = .discover peer address service ∧ registry.isBlocked address = false ∧
          registry.Unbacked before ∧ after = ⟨some peer.memberId, service⟩
  replaced : ∀ (peer : Peer) (address : Address) (service : Option ServiceId)
    (before : Introduction), registry.addresses[address]? = some before →
    registry.isBlocked address = false → registry.Unbacked before →
      (registry.discover peer address service).addresses[address]? =
        some ⟨some peer.memberId, service⟩
  verifying : ∀ (peer : Peer) (address : Address) (entry : Introduction),
    registry.addresses[address]? = some entry →
      (registry.verify peer).addresses[address]? = some entry
  /-- An entry lasts as long as its introducer is verified and the address known. -/
  lasting : ∀ (operations : List Operation) (address : Address) (introducer : MemberId)
    (through : Option ServiceId),
    registry.addresses[address]? = some ⟨some introducer, through⟩ →
    (∀ earlier, earlier <+: operations → introducer ∈ (registry.run earlier).verified ∧
      address ∈ (registry.run earlier).addresses) →
      (registry.run operations).addresses[address]? = some ⟨some introducer, through⟩
  /-- The entry of a verified introducer survives whatever forgets nothing. -/
  surviving : ∀ (operations : List Operation) (address : Address) (introducer : MemberId)
    (through : Option ServiceId),
    registry.addresses[address]? = some ⟨some introducer, through⟩ →
    introducer ∈ registry.verified → (∀ operation ∈ operations, operation.IsAdditive) →
      (registry.run operations).addresses[address]? = some ⟨some introducer, through⟩

variable {registry : Registry} {address other : Address} {entry before after : Introduction}
  {introducer : MemberId} {through : Option ServiceId}

theorem takesIntroduction_iff_unbacked (known : registry.addresses[address]? = some entry) :
    registry.takesIntroduction address = true ↔ registry.Unbacked entry := by
  unfold takesIntroduction Unbacked isVerified
  rw [known]
  obtain ⟨introducer?, through⟩ := entry
  cases introducer? with
  | none => simp
  | some introducer => simp [← Bool.not_eq_true]

theorem not_unbacked_of_mem (verified : introducer ∈ registry.verified) :
    ¬registry.Unbacked ⟨some introducer, through⟩ := by
  rintro (nobody | ⟨other, ⟨⟩, stranger⟩)
  · cases nobody
  · exact stranger verified

theorem entry_verify (peer : Peer) (known : registry.addresses[address]? = some entry) :
    (registry.verify peer).addresses[address]? = some entry := by
  rw [getElem?_addresses_verify, known]
  split <;> rfl

/-- What becomes of the entry of a known address when some address is introduced. -/
theorem entry_discover (peer : Peer) (other : Address) (service : Option ServiceId)
    (known : registry.addresses[address]? = some entry)
    [Decidable (registry.Unbacked entry)] :
    (registry.discover peer other service).addresses[address]? =
      some (if other = address ∧ registry.admits other ∧ registry.Unbacked entry then
        ⟨some peer.memberId, service⟩ else entry) := by
  have recorded : (registry.introduced peer.memberId other service).addresses[address]? =
      some (if other = address ∧ registry.admits other ∧ registry.Unbacked entry then
        ⟨some peer.memberId, service⟩ else entry) := by
    rw [getElem?_addresses_introduced]
    by_cases same : other = address
    · subst same
      simp only [takesIntroduction_iff_unbacked known, true_and, known]
      split <;> rfl
    · rw [if_neg (fun all => same all.1), if_neg (fun all => same all.1), known]
  rw [discover_eq]
  exact entry_verify peer recorded

/-- Forgetting a peer erases an entry or leaves it. -/
theorem entry_forgetPeer {member : MemberId}
    (stays : (registry.forgetPeer member).addresses[address]? = some entry) :
    registry.addresses[address]? = some entry := by
  unfold forgetPeer at stays
  split at stays
  · exact stays
  · dsimp only at stays
    split at stays
    · exact stays
    · rw [Std.ExtTreeMap.getElem?_erase] at stays
      split at stays
      · cases stays
      · exact stays

theorem entry_forgetAddress
    (stays : (registry.forgetAddress other).addresses[address]? = some entry) :
    registry.addresses[address]? = some entry := by
  unfold forgetAddress at stays
  rw [Std.ExtTreeMap.getElem?_erase] at stays
  split at stays
  · cases stays
  · exact stays

/-- An operation that neither shows a peer nor forgets anything leaves the table of addresses. -/
theorem addresses_apply_of_not_shown {operation : Operation} (unshown : operation.shown? = none)
    (additive : operation.IsAdditive) :
    (registry.apply operation).addresses = registry.addresses := by
  cases operation with
  | verify peer => cases unshown
  | discover peer other service => cases unshown
  | forgetAddress other => exact additive.elim
  | forgetPeer member => exact additive.elim
  | addServices member services => rfl
  | blockAddress other => rfl
  | blockMember member => rfl
  | markSent place now => exact (registry.sameButMarks_markSent place now).addresses
  | markHeard place now => exact (registry.sameButMarks_markHeard place now).addresses
  | updateClock member time now => exact registry.addresses_updateClock member time now

/-- The entry of an address that stays known is the old one, or was written by an introduction
of the address. -/
theorem entry_apply {operation : Operation} (known : registry.addresses[address]? = some before)
    (stays : (registry.apply operation).addresses[address]? = some after) :
    after = before ∨ ∃ (peer : Peer) (service : Option ServiceId),
      operation = .discover peer address service ∧ registry.isBlocked address = false ∧
        registry.Unbacked before ∧ after = ⟨some peer.memberId, service⟩ := by
  have same : registry.addresses[address]? = some after → after = before := fun found =>
    Option.some.inj (found.symm.trans known)
  have untouched : operation.shown? = none → operation.IsAdditive → after = before := by
    intro unshown additive
    rw [addresses_apply_of_not_shown unshown additive] at stays
    exact same stays
  cases operation with
  | verify peer => exact .inl (Option.some.inj (stays.symm.trans (entry_verify peer known)))
  | discover peer other service =>
      classical
      have found := (entry_discover peer other service known).symm.trans stays
      rw [Option.some.injEq] at found
      split at found
      · rename_i taken
        obtain ⟨rfl, admitted, unbacked⟩ := taken
        exact .inr ⟨peer, service, rfl, admitted.2, unbacked, found.symm⟩
      · exact .inl found.symm
  | forgetAddress other => exact .inl (same (entry_forgetAddress stays))
  | forgetPeer member => exact .inl (same (entry_forgetPeer stays))
  | _ => exact .inl (untouched rfl trivial)

/-- An operation that leaves the address known leaves the entry of a verified introducer. -/
theorem backed_apply {operation : Operation}
    (held : registry.addresses[address]? = some ⟨some introducer, through⟩)
    (verified : introducer ∈ registry.verified)
    (stays : address ∈ (registry.apply operation).addresses) :
    (registry.apply operation).addresses[address]? = some ⟨some introducer, through⟩ := by
  obtain ⟨after, found⟩ :=
    Option.isSome_iff_exists.1 (Std.ExtTreeMap.mem_iff_isSome_getElem?.1 stays)
  obtain same | ⟨peer, service, -, -, unbacked, -⟩ := entry_apply held found
  · rw [found, same]
  · exact absurd unbacked (not_unbacked_of_mem verified)

/-- An entry lasts through a run in which its introducer stays verified and the address known. -/
theorem backed_run {operations : List Operation}
    (held : registry.addresses[address]? = some ⟨some introducer, through⟩)
    (throughout : ∀ earlier, earlier <+: operations →
      introducer ∈ (registry.run earlier).verified ∧
        address ∈ (registry.run earlier).addresses) :
    (registry.run operations).addresses[address]? = some ⟨some introducer, through⟩ := by
  induction operations generalizing registry with
  | nil => exact held
  | cons operation operations ih =>
      have verified := (throughout [] List.nil_prefix).1
      have stays := (throughout [operation] (by simp)).2
      refine ih (backed_apply held verified stays) fun earlier begins => ?_
      exact throughout (operation :: earlier) (List.cons_prefix_cons.2 ⟨rfl, begins⟩)

theorem stays_verified_apply {operation : Operation} (additive : operation.IsAdditive)
    (verified : introducer ∈ registry.verified) :
    introducer ∈ (registry.apply operation).verified := by
  cases shown : operation.shown? with
  | some peer =>
      rw [Std.ExtTreeMap.mem_iff_isSome_getElem?,
        registry.getElem?_verified_apply_of_shown shown]
      split
      · rfl
      · exact Std.ExtTreeMap.mem_iff_isSome_getElem?.1 verified
  | none =>
      cases operation with
      | verify peer => cases shown
      | discover peer other service => cases shown
      | forgetAddress other => exact additive.elim
      | forgetPeer member => exact additive.elim
      | markSent place now =>
          exact ((registry.sameButMarks_markSent place now).mem_verified introducer).2 verified
      | markHeard place now =>
          exact ((registry.sameButMarks_markHeard place now).mem_verified introducer).2 verified
      | updateClock member time now =>
          exact (registry.mem_verified_updateClock member introducer time now).2 verified
      | _ => exact verified

theorem stays_known_apply {operation : Operation} (additive : operation.IsAdditive)
    (known : address ∈ registry.addresses) :
    address ∈ (registry.apply operation).addresses := by
  cases shown : operation.shown? with
  | some peer =>
      cases operation with
      | verify observed => exact (registry.mem_addresses_verify observed address).2 (.inl known)
      | discover introducer other service =>
          exact (registry.mem_addresses_discover introducer other address service).2 (.inl known)
      | _ => cases shown
  | none =>
      rw [addresses_apply_of_not_shown shown additive]
      exact known

/-- Where nothing is forgotten, verified members stay verified and known addresses known. -/
theorem stays_run {operations : List Operation}
    (additive : ∀ operation ∈ operations, operation.IsAdditive)
    (verified : introducer ∈ registry.verified) (known : address ∈ registry.addresses) :
    introducer ∈ (registry.run operations).verified ∧
      address ∈ (registry.run operations).addresses := by
  induction operations generalizing registry with
  | nil => exact ⟨verified, known⟩
  | cons operation operations ih =>
      have adds := additive operation List.mem_cons_self
      exact ih (fun later listed => additive later (List.mem_cons_of_mem operation listed))
        (stays_verified_apply adds verified) (stays_known_apply adds known)

/-- Introducers are sticky in every registry that a run of an empty one leads to. -/
theorem sticky_run_empty (history : List Operation) : (Registry.empty.run history).Sticky where
  changed operation address before after known stays differs :=
    (entry_apply known stays).resolve_left differs
  replaced peer address service before known unblocked unbacked := by
    classical
    have nonempty : address ≠ .empty := by
      rintro rfl
      refine (Coherent.empty.run history).emptyUnknown ?_
      rw [Std.ExtTreeMap.mem_iff_isSome_getElem?, known]
      rfl
    rw [entry_discover peer address service known, if_pos ⟨rfl, ⟨nonempty, unblocked⟩, unbacked⟩]
  verifying peer address entry known := entry_verify peer known
  lasting operations address introducer through held throughout := backed_run held throughout
  surviving operations address introducer through held verified additive := by
    have known : address ∈ (Registry.empty.run history).addresses := by
      rw [Std.ExtTreeMap.mem_iff_isSome_getElem?, held]
      rfl
    refine backed_run held fun earlier begins => ?_
    have adds : ∀ operation ∈ earlier, operation.IsAdditive :=
      fun operation listed => additive operation (begins.subset listed)
    exact stays_run adds verified known

end Registry

end PeerDiscovery
