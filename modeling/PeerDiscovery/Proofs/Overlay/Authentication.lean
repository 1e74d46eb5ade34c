import PeerDiscovery.Proofs.Overlay.Evidence

/-!
# Members are authenticated

Whatever an overlay receives and does, every peer that it takes for a member has
signed an introduction request or response that was received from the address
under which the peer is stored.  All other packets add nothing to the registry.

The invariant is that the registry is guarded by the packets received so far:
whatever a handler verifies was opened before.
-/

namespace PeerDiscovery

namespace Registry

/-- Two registries with the same known addresses, advertised services and verified
members. -/
structure NothingAdded (registry other : Registry) : Prop where
  addresses : other.addresses = registry.addresses
  services : other.services = registry.services
  verified : ∀ member : MemberId, member ∈ other.verified ↔ member ∈ registry.verified

namespace NothingAdded

theorem refl (registry : Registry) : NothingAdded registry registry :=
  ⟨rfl, rfl, fun _ => Iff.rfl⟩

theorem trans {first second third : Registry} (left : NothingAdded first second)
    (right : NothingAdded second third) : NothingAdded first third where
  addresses := right.addresses.trans left.addresses
  services := right.services.trans left.services
  verified member := (right.verified member).trans (left.verified member)

theorem of_sameButMarks {registry other : Registry} (same : SameButMarks registry other) :
    NothingAdded registry other :=
  ⟨same.addresses, same.services, same.mem_verified⟩

theorem updateClock (registry : Registry) (member : MemberId) (time : UInt64) (now : Instant) :
    NothingAdded registry (registry.updateClock member time now) :=
  ⟨registry.addresses_updateClock member time now, registry.services_updateClock member time now,
    fun other => registry.mem_verified_updateClock member other time now⟩

end NothingAdded

theorem addServices_verify (registry : Registry) (peer : Peer) (member : MemberId)
    (services : List ServiceId) :
    (registry.verify peer).addServices member services =
      (registry.addServices member services).verify peer := by
  have sameTakes : (registry.addServices member services).takes peer ↔ registry.takes peer :=
    Iff.rfl
  rw [verify_eq, verify_eq]
  by_cases taken : registry.takes peer
  · rw [if_pos taken, if_pos (sameTakes.2 taken), rememberAddress_eq, rememberAddress_eq]
    by_cases admitted : registry.admits peer.address
    · rw [if_pos admitted, if_pos (show (registry.addServices member services).admits _ from
        admitted)]
      rfl
    · rw [if_neg admitted, if_neg (show ¬(registry.addServices member services).admits _ from
        admitted)]
      rfl
  · rw [if_neg taken, if_neg (fun both => taken (sameTakes.1 both))]

end Registry

namespace Activity

inductive Event where
  | receives (packet : Packet) (pick : Nat)
  | acts (initiative : Initiative)
  | adoptsLan (lan : Address)

def Event.packet? : Event → Option Packet
  | receives packet _ => some packet
  | acts _ => none
  | adoptsLan _ => none

def undergo (activity : Activity) (moment : Moment) (event : Event) : Activity :=
  let activity := { activity with moment }
  match event with
  | .receives packet pick => activity.receive packet pick
  | .acts initiative => activity.takeInitiative initiative
  | .adoptsLan lan => activity.adoptLan lan

/-- The activity after a list of events, the first one first. -/
def live (activity : Activity) (life : List (Moment × Event)) : Activity :=
  life.foldl (fun activity (moment, event) => activity.undergo moment event) activity

def packetsOf (life : List (Moment × Event)) : List Packet :=
  life.flatMap fun (_, event) => event.packet?.toList

/-- An overlay with no handlers of its own, alone on a registry that it loads
itself into. -/
def joined (key : PrivateKey) (settings : OverlaySettings) (moment : Moment) : Activity :=
  (Activity.start (OverlayPlan.build { settings } key) .empty moment).load

/-- An overlay without handlers of its own whose registry is guarded. -/
structure Guarded (key : PrivateKey) (settings : OverlaySettings) (packets : List Packet)
    (activity : Activity) : Prop where
  configured : activity.overlay.settings = settings
  builtIn : activity.overlay.handlers = ∅
  registry : Registry.Guarded settings key.publicKey.memberId packets activity.known.registry

namespace Guarded

variable {key : PrivateKey} {settings : OverlaySettings} {packets : List Packet}
  {activity : Activity}

theorem service (guarded : Guarded key settings packets activity) :
    activity.service = settings.service := by
  rw [← guarded.configured]
  rfl

theorem onRegistry (guarded : Guarded key settings packets activity)
    {change : Registry → Registry}
    (kept : Registry.Guarded settings key.publicKey.memberId packets
      (change activity.known.registry)) :
    Guarded key settings packets (activity.onRegistry change) :=
  ⟨guarded.configured, guarded.builtIn, kept⟩

theorem sendTo (guarded : Guarded key settings packets activity) (destination : Address)
    (data : Bytes) : Guarded key settings packets (activity.sendTo destination data) :=
  ⟨guarded.configured, guarded.builtIn,
    guarded.registry.sameButMarks (Registry.sameButMarks_markSent _ _ _)⟩

theorem noteHeard (guarded : Guarded key settings packets activity) (packet : Packet) :
    Guarded key settings packets (activity.noteHeard packet) :=
  guarded.onRegistry (guarded.registry.sameButMarks (Registry.sameButMarks_markHeard _ _ _))

theorem claimTime (guarded : Guarded key settings packets activity) :
    Guarded key settings packets activity.claimTime :=
  ⟨guarded.configured, guarded.builtIn, guarded.registry⟩

theorem hear {Value : Type} (guarded : Guarded key settings packets activity)
    (signed : Signed Value) : Guarded key settings packets (activity.hear signed) :=
  guarded.onRegistry (guarded.registry.updateClock _ _ _)

theorem kept : KeptByInitiatives (Guarded key settings packets) where
  walkTo _ _ guarded := guarded.claimTime.sendTo _ _
  noteBootstrap _ guarded := ⟨guarded.configured, guarded.builtIn, guarded.registry⟩
  forgetAddress _ address guarded _ := guarded.onRegistry (guarded.registry.forgetAddress address)

theorem verify (guarded : Guarded key settings packets activity) {peer : Peer}
    (vouched : Vouched packets settings.service peer.memberId peer) :
    Guarded key settings packets (activity.verify peer) := by
  refine guarded.onRegistry ?_
  rw [guarded.service, Registry.addServices_verify]
  refine (guarded.registry.addServices _ _).verify vouched ?_
  rw [Registry.advertises_addServices]
  exact .inr ⟨rfl, List.mem_singleton_self _⟩

theorem advertises_verify (guarded : Guarded key settings packets activity) (peer : Peer) :
    (activity.verify peer).known.registry.advertises peer.memberId settings.service = true := by
  rw [← guarded.service]
  refine (Registry.advertises_addServices _ _ _ _ _).2 (.inr ⟨rfl, ?_⟩)
  exact List.mem_singleton_self _

theorem discover (guarded : Guarded key settings packets activity) {peer : Peer}
    (vouched : Vouched packets settings.service peer.memberId peer)
    (advertises : activity.known.registry.advertises peer.memberId settings.service = true)
    (address : Address) :
    Guarded key settings packets (activity.discover peer address) ∧
      (activity.discover peer address).known.registry.advertises peer.memberId
        settings.service = true := by
  unfold Activity.discover
  split
  · exact ⟨guarded, advertises⟩
  · constructor
    · refine guarded.onRegistry ?_
      rw [Registry.discover_eq]
      refine (guarded.registry.introduced _ _ _).verify vouched ?_
      rw [Registry.advertises_congr (Registry.services_introduced _ _ _ _)]
      exact advertises
    · rw [registry_onRegistry, Registry.advertises_congr (Registry.services_discover _ _ _ _)]
      exact advertises

theorem discoverAll (guarded : Guarded key settings packets activity) {peer : Peer}
    (vouched : Vouched packets settings.service peer.memberId peer)
    (advertises : activity.known.registry.advertises peer.memberId settings.service = true)
    (addresses : List Address) :
    Guarded key settings packets
      (addresses.foldl (fun activity address => activity.discover peer address) activity) := by
  induction addresses generalizing activity with
  | nil => exact guarded
  | cons address others ih =>
      obtain ⟨next, stillAdvertises⟩ := guarded.discover vouched advertises address
      exact ih next stillAdvertises

theorem learnWan (guarded : Guarded key settings packets activity) (sender wan : Address) :
    Guarded key settings packets (activity.learnWan sender wan) := by
  unfold Activity.learnWan
  split
  · exact guarded
  · exact ⟨guarded.configured, guarded.builtIn, guarded.registry⟩

theorem takeResponse (guarded : Guarded key settings packets activity) {peer : Peer}
    {response : IntroductionResponse}
    (vouched : Vouched packets settings.service
      (peer.reporting response.sourceLan response.sourceWan).memberId
      (peer.reporting response.sourceLan response.sourceWan)) :
    Guarded key settings packets (activity.takeResponse peer response) := by
  have learned := guarded.learnWan peer.address response.destination
  exact (learned.verify vouched).discoverAll vouched (learned.advertises_verify _) _

theorem answerRequest (guarded : Guarded key settings packets activity) {peer : Peer}
    {request : IntroductionRequest}
    (vouched : Vouched packets settings.service
      (peer.reporting request.sourceLan request.sourceWan).memberId
      (peer.reporting request.sourceLan request.sourceWan)) (pick : Nat) :
    Guarded key settings packets (activity.answerRequest peer request pick) := by
  have asked : ∀ (walker : Puncture) (introduced : Option Peer),
      Guarded key settings packets
        ((activity.verify (peer.reporting request.sourceLan request.sourceWan)).askCandidate
          walker introduced) := by
    intro walker introduced
    have verified := guarded.verify vouched
    cases introduced with
    | none => exact verified
    | some candidate => exact verified.claimTime.sendTo _ _
  rw [answerRequest_eq]
  split
  · exact ⟨guarded.configured, guarded.builtIn, guarded.registry⟩
  · exact (asked _ _).claimTime.sendTo _ _

/-- A received packet is evidence for whatever is verified because of it. -/
theorem receive (guarded : Guarded key settings packets activity) {packet : Packet}
    (received : packet ∈ packets) (pick : Nat) :
    Guarded key settings packets (activity.receive packet pick) := by
  have heard := guarded.noteHeard packet
  have outcome := outcome_receive guarded.builtIn packet pick
  generalize activity.receive packet pick = next at outcome
  cases outcome with
  | foreign => exact guarded
  | unhandled => exact heard
  | rejected messageId cause => exact ⟨heard.configured, heard.builtIn, heard.registry⟩
  | request signed carried opened =>
      have introduces := Packet.introduces_of_request carried opened
      rw [guarded.service] at introduces
      have source := (Packet.address_of_openSigned opened).symm
      refine (heard.hear signed).answerRequest ?_ pick
      exact Vouched.of_introduces received source introduces
  | response signed carried opened =>
      have introduces := Packet.introduces_of_response carried opened
      rw [guarded.service] at introduces
      have source := (Packet.address_of_openSigned opened).symm
      refine (heard.hear signed).takeResponse ?_
      exact Vouched.of_introduces received source introduces
  | puncture signed => exact heard.hear signed
  | punctureRequest unsigned => exact heard.claimTime.sendTo _ _

theorem adoptLan (guarded : Guarded key settings packets activity) (lan : Address) :
    Guarded key settings packets (activity.adoptLan lan) := by
  unfold Activity.adoptLan
  split
  · exact guarded
  · exact ⟨guarded.configured, guarded.builtIn, guarded.registry⟩

theorem undergo (guarded : Guarded key settings packets activity) (moment : Moment)
    (event : Event) :
    Guarded key settings (packets ++ event.packet?.toList) (activity.undergo moment event) := by
  have grown : Guarded key settings (packets ++ event.packet?.toList) { activity with moment } :=
    ⟨guarded.configured, guarded.builtIn,
      guarded.registry.mono (List.subset_append_left _ _)⟩
  cases event with
  | receives packet pick =>
      exact grown.receive (List.mem_append_right _ (List.mem_singleton_self packet)) pick
  | acts initiative => exact kept.takeInitiative grown initiative
  | adoptsLan lan => exact grown.adoptLan lan

/-- A whole life keeps the registry guarded, by the packets received in it. -/
theorem live (guarded : Guarded key settings packets activity) (life : List (Moment × Event)) :
    Guarded key settings (packets ++ packetsOf life) (activity.live life) := by
  induction life generalizing activity packets with
  | nil =>
      rw [packetsOf, List.flatMap_nil, List.append_nil]
      exact guarded
  | cons first later ih =>
      obtain ⟨moment, event⟩ := first
      have next := ih (guarded.undergo moment event)
      rw [List.append_assoc] at next
      exact next

end Guarded

theorem registry_joined (key : PrivateKey) (settings : OverlaySettings) (moment : Moment) :
    (joined key settings moment).known.registry =
      settings.bootstrap.foldl Registry.blockAddress
        (Registry.empty.blockMember key.publicKey.memberId) := rfl

@[simp]
theorem verified_joined (key : PrivateKey) (settings : OverlaySettings) (moment : Moment) :
    (joined key settings moment).known.registry.verified = ∅ := by
  rw [registry_joined, Registry.foldl_blockAddress_eq]
  rfl

@[simp]
theorem addresses_joined (key : PrivateKey) (settings : OverlaySettings) (moment : Moment) :
    (joined key settings moment).known.registry.addresses = ∅ := by
  rw [registry_joined, Registry.foldl_blockAddress_eq]
  rfl

/-- An overlay that has just been loaded knows nobody and has blocked itself and its
bootstrap addresses. -/
theorem guarded_joined (key : PrivateKey) (settings : OverlaySettings) (moment : Moment) :
    Guarded key settings [] (joined key settings moment) where
  configured := rfl
  builtIn := rfl
  registry := by
    have nobody : ∀ holds, Registry.Records (joined key settings moment).known.registry holds := by
      intro holds member peer stored
      simp at stored
    refine
      { ownBlocked := ?_
        bootstrapBlocked := ?_
        knownUnblocked := ?_
        records := nobody _
        advertised := nobody _ }
    · rw [registry_joined, Registry.foldl_blockAddress_eq]
      simp [Registry.blockMember]
    · intro address listed
      rw [registry_joined, Registry.isBlocked_foldl_blockAddress]
      exact .inr listed
    · intro address known
      simp at known

/-- A packet that is no genuine introduction request or response adds nothing. -/
theorem nothingAdded_receive {activity : Activity} (builtIn : activity.overlay.handlers = ∅)
    {packet : Packet}
    (nobody : ∀ member lan wan, ¬packet.Introduces activity.service member lan wan) (pick : Nat) :
    activity.known.registry.NothingAdded (activity.receive packet pick).known.registry := by
  have heard : activity.known.registry.NothingAdded
      (activity.noteHeard packet).known.registry :=
    .of_sameButMarks (Registry.sameButMarks_markHeard _ _ _)
  have outcome := outcome_receive builtIn packet pick
  generalize activity.receive packet pick = next at outcome
  cases outcome with
  | foreign => exact .refl _
  | unhandled => exact heard
  | rejected messageId cause => exact heard
  | request signed carried opened =>
      exact absurd (Packet.introduces_of_request carried opened) (nobody _ _ _)
  | response signed carried opened =>
      exact absurd (Packet.introduces_of_response carried opened) (nobody _ _ _)
  | puncture signed => exact heard.trans (.updateClock _ _ _ _)
  | punctureRequest unsigned =>
      exact heard.trans (.of_sameButMarks (Registry.sameButMarks_markSent _ _ _))

/-- An overlay whose members are authenticated by the packets received so far. -/
structure Authenticated (settings : OverlaySettings) (own : MemberId) (packets : List Packet)
    (activity : Activity) : Prop where
  admitted : activity.known.registry.Records (Admitted settings own packets)
  advertised : activity.known.registry.Records fun member _ =>
    activity.known.registry.advertises member settings.service = true
  /-- A packet that introduces nobody adds no peer, no address and no service. -/
  unaffected : ∀ (moment : Moment) (packet : Packet) (pick : Nat),
    (∀ member lan wan, ¬packet.Introduces settings.service member lan wan) →
    activity.known.registry.NothingAdded
      (activity.undergo moment (.receives packet pick)).known.registry

/-- In every life of an overlay its members are authenticated. -/
theorem authenticated_live_joined (key : PrivateKey) (settings : OverlaySettings)
    (moment : Moment) (life : List (Moment × Event)) :
    Authenticated settings key.publicKey.memberId (packetsOf life)
      ((joined key settings moment).live life) := by
  have guarded := (guarded_joined key settings moment).live life
  rw [List.nil_append] at guarded
  refine
    { admitted := guarded.registry.records
      advertised := guarded.registry.advertised
      unaffected := ?_ }
  intro later packet pick nobody
  have atMoment : Guarded key settings (packetsOf life)
      { (joined key settings moment).live life with moment := later } :=
    ⟨guarded.configured, guarded.builtIn, guarded.registry⟩
  rw [← atMoment.service] at nobody
  exact nothingAdded_receive atMoment.builtIn nobody pick

end Activity

end PeerDiscovery
