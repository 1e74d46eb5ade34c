import PeerDiscovery.Proofs.Registry.Observation

/-!
# What a record is made of

The record of a member sums up the peers that were shown of it since it became
verified.  The first one says who the member is.  Each kind of address is the
last one that was not empty; where the member was seen, blocked addresses do not
count, except for the first peer, which is stored as it is.

This holds over whole runs, with whatever is done to other members, addresses and
services in between, as long as the member stays verified.  A member that is blocked
later stays verified, but what is shown of it from then on is ignored.
-/

namespace PeerDiscovery

namespace Address

/-- The last address that is not empty, or the empty one if there is none. -/
def latest (addresses : List Address) : Address :=
  ((addresses.filter fun address => !address.isEmpty).getLast?).getD .empty

theorem latest_singleton (address : Address) : latest [address] = address := by
  by_cases vacant : address = .empty <;> simp [latest, vacant]

theorem latest_concat (addresses : List Address) (address : Address) :
    latest (addresses ++ [address]) = Peer.newerAddress (latest addresses) address := by
  unfold latest
  rw [Peer.newerAddress_eq, List.filter_append]
  by_cases vacant : address = .empty
  · simp [vacant]
  · simp [vacant]

end Address

namespace Registry

structure Observation where
  peer : Peer
  addressBlocked : Bool
  memberBlocked : Bool

/-- What an operation shows of a member, if it shows anything. -/
def observation? (registry : Registry) (member : MemberId) (operation : Operation) :
    Option Observation :=
  (operation.shown?.filter fun peer => peer.memberId == member).map fun peer =>
    ⟨peer, registry.isBlocked peer.address, registry.blockedMembers.contains member⟩

/-- What a run shows of a member. -/
def observations (registry : Registry) (member : MemberId) : List Operation → List Observation
  | [] => []
  | operation :: later =>
    (registry.observation? member operation).toList ++
      (registry.apply operation).observations member later

/-- The member is verified in every state of a run. -/
def Keeps (registry : Registry) (member : MemberId) : List Operation → Prop
  | [] => member ∈ registry.verified
  | operation :: later =>
    member ∈ registry.verified ∧ (registry.apply operation).Keeps member later

/-- A record made of the first peer that was shown of a member and of what was shown
later. -/
structure Summary (first : Peer) (later : List Observation) (stored : Peer) : Prop where
  key : stored.key = first.key
  memberId : stored.memberId = first.memberId
  intro : stored.intro = first.intro
  lan : stored.lan = Address.latest (first.lan :: later.map (·.peer.lan))
  wan : stored.wan = Address.latest (first.wan :: later.map (·.peer.wan))
  address : stored.address = Address.latest
    (first.address :: (later.filter (!·.addressBlocked)).map (·.peer.address))

namespace Summary

variable {first stored : Peer} {seen : List Observation}

theorem first_only (first : Peer) : Summary first [] first where
  key := rfl
  memberId := rfl
  intro := rfl
  lan := (Address.latest_singleton _).symm
  wan := (Address.latest_singleton _).symm
  address := (Address.latest_singleton _).symm

theorem congr (summary : Summary first seen stored) {other : Peer}
    (same : stored.profile = other.profile) : Summary first seen other where
  key := (congrArg Peer.key same).symm.trans summary.key
  memberId := (congrArg Peer.memberId same).symm.trans summary.memberId
  intro := (congrArg Peer.intro same).symm.trans summary.intro
  lan := (congrArg Peer.lan same).symm.trans summary.lan
  wan := (congrArg Peer.wan same).symm.trans summary.wan
  address := (congrArg Peer.address same).symm.trans summary.address

theorem merge (summary : Summary first seen stored) (registry : Registry) (peer : Peer)
    (memberBlocked : Bool) :
    Summary first (seen ++ [⟨peer, registry.isBlocked peer.address, memberBlocked⟩])
      (stored.merge (registry.screened peer)) where
  key := summary.key
  memberId := summary.memberId
  intro := summary.intro
  lan := by
    rw [List.map_append, screened_eq]
    exact (congrArg (Peer.newerAddress · peer.lan) summary.lan).trans
      (Address.latest_concat (first.lan :: _) peer.lan).symm
  wan := by
    rw [List.map_append, screened_eq]
    exact (congrArg (Peer.newerAddress · peer.wan) summary.wan).trans
      (Address.latest_concat (first.wan :: _) peer.wan).symm
  address := by
    have merged : (stored.merge (registry.screened peer)).address =
        Peer.newerAddress stored.address (registry.screened peer).address := rfl
    rw [merged, summary.address, List.filter_append, List.map_append]
    unfold screened
    cases blocked : registry.isBlocked peer.address with
    | true =>
        -- no address replaces the known one, and none is counted
        simp [Peer.newerAddress_eq]
    | false => exact (Address.latest_concat (first.address :: _) peer.address).symm

end Summary

variable (registry : Registry)

theorem observation?_of_shown {operation : Operation} {peer : Peer}
    (shown : operation.shown? = some peer) :
    registry.observation? peer.memberId operation =
      some ⟨peer, registry.isBlocked peer.address,
        registry.blockedMembers.contains peer.memberId⟩ := by
  unfold observation?
  rw [shown]
  simp [Option.filter]

theorem observation?_eq_some {member : MemberId} {operation : Operation} {seen : Observation}
    (observed : registry.observation? member operation = some seen) :
    ∃ peer, operation.shown? = some peer ∧ peer.memberId = member ∧
      seen = ⟨peer, registry.isBlocked peer.address, registry.blockedMembers.contains member⟩ := by
  obtain ⟨peer, shown, rfl⟩ := Option.map_eq_some_iff.1 observed
  obtain ⟨shown, own⟩ := Option.filter_eq_some_iff.1 shown
  exact ⟨peer, shown, by simpa using own, rfl⟩

/-- Where nothing is shown of a member, or it is blocked, its record stays. -/
theorem profile_apply_of_unheeded {operation : Operation} {member : MemberId}
    {before after : Peer} (found : registry.verified[member]? = some before)
    (unheeded : ∀ seen, registry.observation? member operation = some seen →
      seen.memberBlocked = true)
    (stored : (registry.apply operation).verified[member]? = some after) :
    after.profile = before.profile := by
  cases registry.stems_of_verified_apply stored with
  | kept known foundKnown same =>
      rw [found] at foundKnown
      cases foundKnown
      exact same.symm
  | left peer shown own taken record =>
      subst own
      have blocked := unheeded _ (registry.observation?_of_shown shown)
      rw [taken.1] at blocked
      cases blocked

theorem Summary.apply {first before after : Peer} {seen : List Observation}
    {registry : Registry} (summary : Summary first seen before) {member : MemberId}
    (found : registry.verified[member]? = some before) {operation : Operation}
    (stored : (registry.apply operation).verified[member]? = some after) :
    Summary first (seen ++ ((registry.observation? member operation).toList.filter
      (!·.memberBlocked))) after := by
  cases observed : registry.observation? member operation with
  | none =>
      have same := registry.profile_apply_of_unheeded found (by simp [observed]) stored
      simpa using summary.congr same.symm
  | some next =>
      obtain ⟨peer, shown, rfl, rfl⟩ := registry.observation?_eq_some observed
      cases blocked : registry.blockedMembers.contains peer.memberId with
      | true =>
          have same := registry.profile_apply_of_unheeded found
            (by simp [observed, blocked]) stored
          simpa using summary.congr same.symm
      | false =>
          rw [registry.verified_apply_of_known shown found blocked] at stored
          cases stored
          exact summary.merge registry peer false

theorem Keeps.now {registry : Registry} {member : MemberId} {later : List Operation}
    (stays : registry.Keeps member later) : member ∈ registry.verified := by
  cases later with
  | nil => exact stays
  | cons operation later => exact stays.1

theorem Summary.run {first before : Peer} {seen : List Observation} {registry : Registry}
    (summary : Summary first seen before) {member : MemberId}
    (found : registry.verified[member]? = some before) {later : List Operation}
    (stays : registry.Keeps member later) :
    ∃ after : Peer, (registry.run later).verified[member]? = some after ∧
      Summary first (seen ++ (registry.observations member later).filter (!·.memberBlocked))
        after := by
  induction later generalizing registry seen before with
  | nil => exact ⟨before, found, by simpa [observations] using summary⟩
  | cons operation later ih =>
      obtain ⟨next, stored⟩ := Option.isSome_iff_exists.1
        (Std.ExtTreeMap.mem_iff_isSome_getElem?.1 stays.2.now)
      obtain ⟨last, storedLast, whole⟩ := ih (summary.apply found stored) stored stays.2
      refine ⟨last, storedLast, ?_⟩
      rw [observations, List.filter_append, ← List.append_assoc]
      exact whole

/-- The record of a member, at any time from when it became verified, as long as it
stays so: it is made of the peer that made it verified and of what is shown of the
member while that is not blocked, and nothing else changes more of it than its clock
and its marks. -/
theorem summary_run (operation : Operation) (later : List Operation) (member : MemberId)
    (stranger : member ∉ registry.verified)
    (stays : (registry.apply operation).Keeps member later) :
    ∃ first stored : Peer,
      operation.shown? = some first ∧ first.memberId = member ∧
      ((registry.apply operation).run later).verified[member]? = some stored ∧
      Summary first (((registry.apply operation).observations member later).filter
        (!·.memberBlocked)) stored ∧
      ∀ (next : Operation) (after : Peer),
        (∀ seen, ((registry.apply operation).run later).observation? member next = some seen →
          seen.memberBlocked = true) →
        (((registry.apply operation).run later).apply next).verified[member]? = some after →
        after.profile = stored.profile := by
  obtain ⟨made, found⟩ := Option.isSome_iff_exists.1
    (Std.ExtTreeMap.mem_iff_isSome_getElem?.1 stays.now)
  have unseen : registry.verified[member]? = none := by simpa using stranger
  cases registry.stems_of_verified_apply found with
  | kept before sameMember same =>
      rw [unseen] at sameMember
      cases sameMember
  | left first shown own taken record =>
      have itself : made = first := by
        rw [← record]
        unfold recordOf
        rw [own, unseen]
      subst itself
      obtain ⟨stored, storedLast, summary⟩ := (Summary.first_only made).run found stays
      exact ⟨made, stored, shown, own, storedLast, summary, fun _ _ unheeded storedNext =>
        profile_apply_of_unheeded _ storedLast unheeded storedNext⟩

instance decidableKeeps (member : MemberId) :
    (later : List Operation) → (registry : Registry) → Decidable (registry.Keeps member later)
  | [], registry => inferInstanceAs (Decidable (member ∈ registry.verified))
  | operation :: later, registry =>
    haveI := decidableKeeps member later (registry.apply operation)
    inferInstanceAs (Decidable (_ ∧ (registry.apply operation).Keeps member later))

def sampleKey : PublicKey :=
  ⟨.ofNatLE 32 0x48eebc05a6dda0e34fc0cc9615da4388679ff2d041798270f9b2dbd341456c56,
    .ofNatLE 32 0x8a2ddea51c6e3c6ad3ec308e9f5aad971709450d6f3b771e1724e2b0e183a82f⟩

def sampleShown (address lan wan : Address) : Operation :=
  .verify ((Peer.seenAt (.theirs sampleKey) address false 0).reporting lan wan)

def sampleFirst : Operation := sampleShown ⟨⟨1, 1, 1, 1⟩, 1⟩ ⟨⟨10, 0, 0, 1⟩, 1⟩ .empty

/-- The member turns up at a blocked address, is blocked itself, and turns up again. -/
def sampleLater : List Operation :=
  [.blockAddress ⟨⟨2, 2, 2, 2⟩, 2⟩,
    sampleShown ⟨⟨2, 2, 2, 2⟩, 2⟩ .empty ⟨⟨3, 3, 3, 3⟩, 3⟩,
    .blockMember sampleKey.memberId,
    sampleShown ⟨⟨1, 1, 1, 1⟩, 1⟩ ⟨⟨10, 0, 0, 2⟩, 2⟩ .empty]

def sampleObservations : List Observation :=
  (Registry.empty.apply sampleFirst).observations sampleKey.memberId sampleLater

def sampleHeeded : List Observation := sampleObservations.filter (!·.memberBlocked)

/-- Evaluated at once, as the member is a hash. -/
theorem sample_evaluated :
    (Registry.empty.apply sampleFirst).Keeps sampleKey.memberId sampleLater ∧
      (((Registry.empty.apply sampleFirst).run sampleLater).verified[
        sampleKey.memberId]?).map Peer.lan = some ⟨⟨10, 0, 0, 1⟩, 1⟩ ∧
      sampleObservations.map (·.peer.lan) = [.empty, ⟨⟨10, 0, 0, 2⟩, 2⟩] ∧
      (sampleHeeded.filter (!·.addressBlocked)).map (·.peer.address) = [] ∧
      sampleHeeded.map (·.peer.wan) = [⟨⟨3, 3, 3, 3⟩, 3⟩] := by
  decide +kernel

theorem summary_sample :
    sampleKey.memberId ∉ Registry.empty.verified ∧
      (Registry.empty.apply sampleFirst).Keeps sampleKey.memberId sampleLater ∧
      ∃ stored : Peer,
        ((Registry.empty.apply sampleFirst).run sampleLater).verified[sampleKey.memberId]? =
          some stored ∧
        stored.address = ⟨⟨1, 1, 1, 1⟩, 1⟩ ∧ stored.wan = ⟨⟨3, 3, 3, 3⟩, 3⟩ := by
  have stranger : sampleKey.memberId ∉ Registry.empty.verified := by simp [Registry.empty]
  obtain ⟨keeps, -, -, addresses, wans⟩ := sample_evaluated
  obtain ⟨first, stored, shown, -, found, summary, -⟩ :=
    summary_run Registry.empty sampleFirst sampleLater sampleKey.memberId stranger keeps
  cases shown
  replace summary : Summary _ sampleHeeded stored := summary
  refine ⟨stranger, keeps, stored, found, ?_, ?_⟩
  · rw [summary.address, addresses]
    decide
  · rw [summary.wan, wans]
    decide

/-- What is shown of the member after it was blocked is not in its record. -/
theorem not_summary_of_all_shown :
    sampleKey.memberId ∉ Registry.empty.verified ∧
      (Registry.empty.apply sampleFirst).Keeps sampleKey.memberId sampleLater ∧
      ∃ first stored : Peer, sampleFirst.shown? = some first ∧
        ((Registry.empty.apply sampleFirst).run sampleLater).verified[sampleKey.memberId]? =
          some stored ∧
        ¬Summary first sampleObservations stored := by
  obtain ⟨keeps, kept, lans, -, -⟩ := sample_evaluated
  obtain ⟨stored, found, lan⟩ := Option.map_eq_some_iff.1 kept
  refine ⟨by simp [Registry.empty], keeps, _, stored, rfl, found, ?_⟩
  intro summary
  have newest := summary.lan
  rw [lan, lans] at newest
  exact absurd newest (by decide)

end Registry

end PeerDiscovery
