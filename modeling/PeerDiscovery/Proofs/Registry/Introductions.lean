import PeerDiscovery.Proofs.Registry.Contacts

/-!
# Who an address is introduced by

The first introduction of an address counts as long as its introducer is verified,
whoever introduces the address later and for whichever service.  So an address that is
introduced for a service is walkable for it, unless it is occupied, or withheld: held
by somebody who neither introduced it through the service nor advertises it.
-/

namespace PeerDiscovery

namespace Registry

/-- A verified introducer other than the responder holds the address, and does not lead
to the service. -/
def Withheld (registry : Registry) (service : ServiceId) (responder : MemberId)
    (address : Address) : Prop :=
  ∃ (introducer : MemberId) (through : Option ServiceId),
    registry.addresses[address]? = some ⟨some introducer, through⟩ ∧
      introducer ∈ registry.verified ∧ introducer ≠ responder ∧
      through ≠ some service ∧ registry.advertises introducer service = false

/-- A verified peer of the service is at the address. -/
def OccupiedFor (registry : Registry) (service : ServiceId) (address : Address) : Prop :=
  ∃ (member : MemberId) (peer : Peer), registry.verified[member]? = some peer ∧
    registry.advertises member service = true ∧ peer.address = address

/-- The address is introduced, by the responder or by a verified member. -/
def Credited (registry : Registry) (responder : MemberId) (address : Address) : Prop :=
  ∃ (introducer : MemberId) (through : Option ServiceId),
    registry.addresses[address]? = some ⟨some introducer, through⟩ ∧
      (introducer = responder ∨ introducer ∈ registry.verified)

variable (registry : Registry)

theorem leadsTo_eq_true_iff (introducer : MemberId) (through : Option ServiceId)
    (service : ServiceId) :
    registry.leadsTo ⟨some introducer, through⟩ (some service) = true ↔
      through = some service ∨ registry.advertises introducer service = true := by
  simp [leadsTo]

theorem Withheld.not_mem_walkable {registry : Registry} {service : ServiceId}
    {responder : MemberId} {address : Address}
    (withheld : registry.Withheld service responder address) :
    address ∉ registry.walkable (some service) := by
  obtain ⟨introducer, through, held, -, -, elsewhere, silent⟩ := withheld
  rw [mem_walkable_some]
  rintro ⟨⟨entry, known, leads⟩, -⟩
  cases known.symm.trans held
  rcases (registry.leadsTo_eq_true_iff _ _ _).1 leads with same | advertised
  · exact elsewhere same
  · rw [silent] at advertised
    cases advertised

/-- A credited address is walkable unless it is occupied or withheld. -/
theorem Credited.mem_walkable_iff {registry : Registry} {service : ServiceId}
    {responder : MemberId} {address : Address} (credited : registry.Credited responder address)
    (offers : registry.advertises responder service = true) :
    address ∈ registry.walkable (some service) ↔
      ¬registry.OccupiedFor service address ∧ ¬registry.Withheld service responder address := by
  constructor
  · intro walks
    have free := ((registry.mem_walkable_some service address).1 walks).2
    constructor
    · rintro ⟨member, peer, stored, advertised, there⟩
      exact free member peer stored advertised there
    · intro withheld
      exact withheld.not_mem_walkable walks
  · rintro ⟨vacant, unwithheld⟩
    obtain ⟨introducer, through, found, stands⟩ := credited
    rw [mem_walkable_some]
    refine ⟨⟨_, found, (registry.leadsTo_eq_true_iff _ _ _).2 ?_⟩, ?_⟩
    · by_cases own : introducer = responder
      · rw [own]
        exact .inr offers
      · by_cases same : through = some service
        · exact .inl same
        · right
          rw [← Bool.not_eq_false]
          intro silent
          exact unwithheld ⟨introducer, through, found, stands.resolve_left own, own, same, silent⟩
    · intro member peer stored advertised there
      exact vacant ⟨member, peer, stored, advertised, there⟩

variable {registry} {peer : Peer} {service : Option ServiceId} {address other : Address}
  {introducer responder : MemberId} {through : Option ServiceId}

theorem introduced_verify_iff :
    (registry.verify peer).addresses[address]? = some ⟨some introducer, through⟩ ↔
      registry.addresses[address]? = some ⟨some introducer, through⟩ := by
  rw [getElem?_addresses_verify]
  split
  · cases registry.addresses[address]? with
    | none => simp [Introduction.direct]
    | some entry => rfl
  · exact Iff.rfl

theorem introduced_discover_iff :
    (registry.discover peer other service).addresses[address]? =
        some ⟨some introducer, through⟩ ↔
      if other = address ∧ registry.admits other ∧ registry.takesIntroduction other = true then
        peer.memberId = introducer ∧ service = through
      else registry.addresses[address]? = some ⟨some introducer, through⟩ := by
  rw [discover_eq, introduced_verify_iff, getElem?_addresses_introduced]
  split
  · simp
  · exact Iff.rfl

theorem takesIntroduction_eq_false_iff :
    registry.takesIntroduction address = false ↔
      ∃ (introducer : MemberId) (through : Option ServiceId),
        registry.addresses[address]? = some ⟨some introducer, through⟩ ∧
          introducer ∈ registry.verified := by
  unfold takesIntroduction isVerified
  cases found : registry.addresses[address]? with
  | none => simp
  | some entry =>
      obtain ⟨introducer?, through⟩ := entry
      cases introducer? with
      | none => simp
      | some introducer => simp

theorem mem_verified_discover (member : MemberId) (differs : member ≠ peer.memberId) :
    member ∈ (registry.discover peer other service).verified ↔ member ∈ registry.verified := by
  rw [Std.ExtTreeMap.mem_iff_isSome_getElem?, Std.ExtTreeMap.mem_iff_isSome_getElem?,
    getElem?_verified_discover, if_neg (fun both => differs both.1.symm)]

theorem stays_verified_discover {member : MemberId} (verified : member ∈ registry.verified) :
    member ∈ (registry.discover peer other service).verified := by
  rw [Std.ExtTreeMap.mem_iff_isSome_getElem?, getElem?_verified_discover]
  split
  · rfl
  · exact Std.ExtTreeMap.mem_iff_isSome_getElem?.1 verified

/-- No introduction by the responder takes an address from somebody else, or gives one to
somebody else. -/
theorem withheld_discover_iff {service : ServiceId} :
    (registry.discover peer other (some service)).Withheld service peer.memberId address ↔
      registry.Withheld service peer.memberId address := by
  constructor
  · rintro ⟨introducer, through, found, verified, differs, elsewhere, silent⟩
    rw [introduced_discover_iff] at found
    split at found
    · exact absurd found.1.symm differs
    · rw [mem_verified_discover introducer differs] at verified
      rw [advertises_congr (services_discover registry peer other _)] at silent
      exact ⟨introducer, through, found, verified, differs, elsewhere, silent⟩
  · rintro ⟨introducer, through, found, verified, differs, elsewhere, silent⟩
    refine ⟨introducer, through, introduced_discover_iff.2 ?_, stays_verified_discover verified,
      differs, elsewhere, ?_⟩
    · split
      · -- an entry is not replaced while its introducer is verified
        rename_i taken
        obtain ⟨rfl, -, takes⟩ := taken
        rw [takesIntroduction_eq_false_iff.2 ⟨introducer, through, found, verified⟩] at takes
        cases takes
      · exact found
    · rw [advertises_congr (services_discover registry peer other _)]
      exact silent

theorem credited_discover (admitted : registry.admits address) :
    (registry.discover peer address service).Credited peer.memberId address := by
  cases takes : registry.takesIntroduction address with
  | true =>
      refine ⟨peer.memberId, service, introduced_discover_iff.2 ?_, .inl rfl⟩
      rw [if_pos ⟨rfl, admitted, takes⟩]
      exact ⟨rfl, rfl⟩
  | false =>
      obtain ⟨introducer, through, found, verified⟩ := takesIntroduction_eq_false_iff.1 takes
      refine ⟨introducer, through, introduced_discover_iff.2 ?_,
        .inr (stays_verified_discover verified)⟩
      rw [if_neg (by simp [takes])]
      exact found

theorem Credited.discover (credited : registry.Credited peer.memberId address) :
    (registry.discover peer other service).Credited peer.memberId address := by
  obtain ⟨introducer, through, found, stands⟩ := credited
  by_cases taken :
      other = address ∧ registry.admits other ∧ registry.takesIntroduction other = true
  · refine ⟨peer.memberId, service, introduced_discover_iff.2 ?_, .inl rfl⟩
    rw [if_pos taken]
    exact ⟨rfl, rfl⟩
  · refine ⟨introducer, through, introduced_discover_iff.2 ?_,
      stands.imp_right stays_verified_discover⟩
    rw [if_neg taken]
    exact found

/-- Only who is verified with which services matters, apart from the addresses. -/
theorem withheld_congr {registry other : Registry} (same : SameContacts registry other)
    {service : ServiceId} :
    other.Withheld service responder address ↔ registry.Withheld service responder address := by
  have members : ∀ member, member ∈ other.verified ↔ member ∈ registry.verified := by
    intro member
    have contacts := congrArg Option.isSome (same.contacts member)
    unfold contact? at contacts
    rw [Option.isSome_map, Option.isSome_map] at contacts
    rw [Std.ExtTreeMap.mem_iff_isSome_getElem?, Std.ExtTreeMap.mem_iff_isSome_getElem?, contacts]
  unfold Withheld
  simp only [same.addresses, members, advertises_congr same.services]

/-- Verifying the responder as a peer of the service changes nothing for the others. -/
theorem withheld_verify_iff {service : ServiceId} :
    ((registry.verify peer).addServices peer.memberId [service]).Withheld service peer.memberId
        address ↔
      registry.Withheld service peer.memberId address := by
  have entries : ∀ (introducer : MemberId) (through : Option ServiceId),
      ((registry.verify peer).addServices peer.memberId [service]).addresses[address]? =
          some ⟨some introducer, through⟩ ↔
        registry.addresses[address]? = some ⟨some introducer, through⟩ :=
    fun _ _ => introduced_verify_iff
  have members : ∀ introducer, introducer ≠ peer.memberId →
      (introducer ∈ ((registry.verify peer).addServices peer.memberId [service]).verified ↔
        introducer ∈ registry.verified) := by
    intro introducer differs
    rw [verified_addServices, Std.ExtTreeMap.mem_iff_isSome_getElem?,
      Std.ExtTreeMap.mem_iff_isSome_getElem?, getElem?_verified_verify,
      if_neg (fun both => differs both.1.symm)]
  have services : ∀ introducer, introducer ≠ peer.memberId →
      (((registry.verify peer).addServices peer.memberId [service]).advertises introducer
        service = false ↔ registry.advertises introducer service = false) := by
    intro introducer differs
    rw [← Bool.not_eq_true, ← Bool.not_eq_true, advertises_addServices,
      advertises_congr (services_verify registry peer)]
    exact not_congr ⟨fun both => both.resolve_right fun own => differs own.1.symm, .inl⟩
  unfold Withheld
  refine exists_congr fun introducer => exists_congr fun through => ?_
  rw [entries]
  refine and_congr_right fun _ => ?_
  constructor
  · rintro ⟨verified, differs, elsewhere, silent⟩
    exact ⟨(members introducer differs).1 verified, differs, elsewhere,
      (services introducer differs).1 silent⟩
  · rintro ⟨verified, differs, elsewhere, silent⟩
    exact ⟨(members introducer differs).2 verified, differs, elsewhere,
      (services introducer differs).2 silent⟩

def discoverAll (registry : Registry) (peer : Peer) (addresses : List Address)
    (service : ServiceId) : Registry :=
  addresses.foldl (fun registry address => registry.discover peer address (some service)) registry

variable {addresses : List Address} {service : ServiceId}

theorem withheld_discoverAll_iff :
    (registry.discoverAll peer addresses service).Withheld service peer.memberId address ↔
      registry.Withheld service peer.memberId address := by
  induction addresses generalizing registry with
  | nil => exact Iff.rfl
  | cons first others ih => exact ih.trans withheld_discover_iff

theorem advertises_discoverAll (member : MemberId) (offered : ServiceId) :
    (registry.discoverAll peer addresses service).advertises member offered =
      registry.advertises member offered := by
  induction addresses generalizing registry with
  | nil => rfl
  | cons first others ih =>
      exact ih.trans (advertises_congr (services_discover registry peer first _) member offered)

theorem Credited.discoverAll (credited : registry.Credited peer.memberId address) :
    (registry.discoverAll peer addresses service).Credited peer.memberId address := by
  induction addresses generalizing registry with
  | nil => exact credited
  | cons first others ih => exact ih credited.discover

theorem credited_discoverAll (listed : address ∈ addresses) (admitted : registry.admits address) :
    (registry.discoverAll peer addresses service).Credited peer.memberId address := by
  induction addresses generalizing registry with
  | nil => cases listed
  | cons first others ih =>
      rcases List.mem_cons.1 listed with rfl | later
      · exact (credited_discover admitted).discoverAll
      · have admittedThen : (registry.discover peer first (some service)).admits address :=
          (admits_congr (registry.blockedAddresses_discover _ _ _)).2 admitted
        exact ih later admittedThen

def Vacant (registry : Registry) (address : Address) : Prop :=
  registry.Records fun _ peer => peer.address ≠ address

namespace Vacant

theorem of_nobody (nobody : registry.verified = ∅) (address : Address) :
    registry.Vacant address := by
  intro member peer stored
  rw [nobody] at stored
  simp at stored

theorem not_occupiedFor (vacant : registry.Vacant address) (service : ServiceId) :
    ¬registry.OccupiedFor service address := by
  rintro ⟨member, peer, stored, -, there⟩
  exact vacant member peer stored there

theorem congr {other : Registry} (vacant : registry.Vacant address)
    (same : other.verified = registry.verified) : other.Vacant address :=
  Records.congr vacant same

theorem sameButMarks {other : Registry} (vacant : registry.Vacant address)
    (same : SameButMarks registry other) : other.Vacant address :=
  Records.sameButMarks vacant same fun _ _ _ unmarked before =>
    congrArg Peer.address unmarked ▸ before

theorem verify (vacant : registry.Vacant address) (elsewhere : peer.address ≠ address) :
    (registry.verify peer).Vacant address := by
  refine Records.verify vacant (fun _ _ => elsewhere) fun known _ found => ?_
  refine Peer.newerAddress_induction (motive := (· ≠ address)) (vacant _ known found) ?_
  intro nonempty
  obtain blocked | ⟨same, -⟩ := registry.address_screened peer
  · exact absurd blocked nonempty
  · rw [same]
    exact elsewhere

theorem discover {service : Option ServiceId} (vacant : registry.Vacant address)
    (elsewhere : peer.address ≠ address) :
    (registry.discover peer other service).Vacant address := by
  rw [discover_eq]
  exact (vacant.congr (registry.verified_introduced peer.memberId other service)).verify elsewhere

theorem discoverAll (vacant : registry.Vacant address) (elsewhere : peer.address ≠ address) :
    (registry.discoverAll peer addresses service).Vacant address := by
  induction addresses generalizing registry with
  | nil => exact vacant
  | cons first others ih => exact ih (vacant.discover elsewhere)

end Vacant

end Registry

end PeerDiscovery
