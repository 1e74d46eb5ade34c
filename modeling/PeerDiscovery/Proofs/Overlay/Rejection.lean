import PeerDiscovery.Proofs.Overlay.Receiving
import PeerDiscovery.Proofs.Packet.Regions
import PeerDiscovery.Proofs.Registry.Tables

/-!
# Packets that are not accepted

A packet of another overlay changes nothing.  A packet of the overlay that nobody
handles, and a membership message with a fault, tell only that somebody at their source
is alive: all readers come before everything else that a handler does.
-/

namespace PeerDiscovery

/-- A fault of a packet that should be a membership message.  Only the request for a
puncture comes without a signature. -/
def Packet.FaultyAs (packet : Packet) : MembershipMessage → Prop
  | .introductionRequest => Fault IntroductionRequest.format packet
  | .introductionResponse => Fault IntroductionResponse.format packet
  | .puncture => Fault Puncture.format packet
  | .punctureRequest => PlainFault Puncture.format packet

/-- Reading refuses exactly if the first reader does, when nothing behind it can. -/
theorem bind_pure_eq_error_iff {Cause First Second : Type} {first : Except Cause First}
    {next : First → Second} :
    (∃ cause, (first >>= fun value => pure (next value)) = .error cause) ↔
      ∃ cause, first = .error cause := by
  cases first with
  | error cause => simp [bind, Except.bind]
  | ok value => simp [bind, Except.bind, pure, Except.pure]

/-- Only a verified peer at the address is marked, and of several one. -/
theorem Registry.verified_markHeard (registry : Registry) (address : Address) (now : Instant) :
    (registry.markHeard address now).verified = registry.verified ∨
      ∃ (member : MemberId) (peer : Peer),
        registry.verified[member]? = some peer ∧ peer.address = address ∧
        (registry.markHeard address now).verified =
          registry.verified.insert member { peer with lastResponse := some now } := by
  unfold markHeard
  split
  · rename_i member peer found
    obtain ⟨stored, placed⟩ := registry.peerAt?_eq_some found
    exact .inr ⟨member, peer, stored, placed, rfl⟩
  · exact .inl rfl

/-- A packet with the header of an overlay has a message identifier. -/
theorem Packet.exists_messageId? {packet : Packet} {service : ServiceId}
    (headed : packet.hasHeader service = true) :
    ∃ messageId, packet.messageId? = some messageId := by
  unfold hasHeader at headed
  simp only [Bool.and_eq_true, decide_eq_true_eq] at headed
  exact ⟨_, List.getElem?_eq_getElem headed.1⟩

namespace Activity

variable {activity next : Activity} {packet : Packet}

theorem takeMembership_eq_error_iff {message : MembershipMessage} {pick : Nat} :
    (∃ cause, activity.takeMembership message packet pick = .error cause) ↔
      packet.FaultyAs message := by
  cases message with
  | introductionRequest => exact bind_pure_eq_error_iff.trans Packet.openSigned_eq_error_iff
  | introductionResponse => exact bind_pure_eq_error_iff.trans Packet.openSigned_eq_error_iff
  | puncture => exact bind_pure_eq_error_iff.trans Packet.openSigned_eq_error_iff
  | punctureRequest => exact bind_pure_eq_error_iff.trans Packet.openUnsigned_eq_error_iff

/-- All that has changed is that one peer at an address counts as heard from, and that the
log may tell of a rejected packet. -/
structure OnlyHeard (source : Address) (activity next : Activity) : Prop where
  sent : next.sent = activity.sent
  deliveries : next.deliveries = activity.deliveries
  overlay : next.overlay = activity.overlay
  moment : next.moment = activity.moment
  wanLog : next.known.wanLog = activity.known.wanLog
  addresses : next.known.registry.addresses = activity.known.registry.addresses
  services : next.known.registry.services = activity.known.registry.services
  blockedAddresses :
    next.known.registry.blockedAddresses = activity.known.registry.blockedAddresses
  blockedMembers : next.known.registry.blockedMembers = activity.known.registry.blockedMembers
  verified : next.known.registry.verified = activity.known.registry.verified ∨
    ∃ (member : MemberId) (peer : Peer),
      activity.known.registry.verified[member]? = some peer ∧ peer.address = source ∧
      next.known.registry.verified = activity.known.registry.verified.insert member
        { peer with lastResponse := some activity.moment.now }
  notices : next.notices = activity.notices ∨ ∃ (messageId : UInt8) (cause : PacketError),
    next.notices = activity.notices ++ [.rejected messageId source cause]

theorem onlyHeard_noteHeard (activity : Activity) (packet : Packet) :
    OnlyHeard packet.source activity (activity.noteHeard packet) := by
  have same := activity.known.registry.sameButMarks_markHeard packet.source activity.moment.now
  exact
    { sent := rfl
      deliveries := rfl
      overlay := rfl
      moment := rfl
      wanLog := rfl
      addresses := same.addresses
      services := same.services
      blockedAddresses := same.blockedAddresses
      blockedMembers := same.blockedMembers
      verified := Registry.verified_markHeard _ _ _
      notices := .inl rfl }

/-- A membership message with a fault is rejected, with a notice. -/
theorem receive_of_faultyAs {message : MembershipMessage}
    (carried : packet.Carries activity.service message) (faulty : packet.FaultyAs message)
    (pick : Nat) :
    ∃ cause, activity.receive packet pick =
      (activity.noteHeard packet).tell (.rejected message.id packet.source cause) := by
  have refuses : ∃ cause, (activity.noteHeard packet).takeMembership message packet pick =
      .error cause :=
    takeMembership_eq_error_iff.2 faulty
  obtain ⟨cause, refused⟩ := refuses
  exact ⟨cause, by rw [receive_of_carries carried, refused]⟩

/-- A packet that does not start with the front of the overlay and some message identifier
changes nothing.  One that nobody handles, or that has a fault as a membership message,
marks at most the peer at its source. -/
theorem receive_unaccepted (activity : Activity) (packet : Packet) (pick : Nat) :
    ((∀ messageId rest, packet.data ≠ Packet.frontOf activity.service messageId ++ rest) →
      activity.receive packet pick = activity) ∧
    ∀ messageId rest, packet.data = Packet.frontOf activity.service messageId ++ rest →
      (activity.overlay.reaction? messageId = none ∨
        ∃ message : MembershipMessage, messageId = message.id ∧ packet.FaultyAs message) →
      OnlyHeard packet.source activity (activity.receive packet pick) := by
  constructor
  · intro foreign
    refine receive_of_foreign ?_ pick
    rw [Bool.eq_false_iff]
    intro headed
    obtain ⟨messageId, numbered⟩ := Packet.exists_messageId? headed
    obtain ⟨rest, starts⟩ := Packet.hasHeader_and_messageId?_iff.1 ⟨headed, numbered⟩
    exact foreign messageId rest starts
  · rintro messageId rest starts bad
    obtain ⟨headed, numbered⟩ := Packet.hasHeader_and_messageId?_iff.2 ⟨rest, starts⟩
    have noted := activity.onlyHeard_noteHeard packet
    rcases bad with unhandled | ⟨message, rfl, faulty⟩
    · have nobody : ∀ found, packet.messageId? = some found →
          activity.overlay.reaction? found = none := by
        intro found same
        cases numbered.symm.trans same
        exact unhandled
      rw [receive_of_reaction?_eq_none headed nobody]
      exact noted
    · obtain ⟨cause, rejected⟩ := receive_of_faultyAs ⟨headed, numbered⟩ faulty pick
      rw [rejected]
      exact { noted with notices := .inr ⟨message.id, cause, rfl⟩ }

/-- An overlay that has verified one peer, of its own key. -/
def sampleListener : Activity :=
  .start (OverlayPlan.build { settings := { service := ⟨Block.ofNatLE 20 0⟩ } } Packet.sampleSigner)
    ⟨Registry.empty.setPeer Packet.sampleSigner.memberId
      (.seenAt (.theirs Packet.sampleSigner.publicKey) ⟨⟨1, 1, 1, 1⟩, 1⟩ false 0), .empty⟩ ⟨5, true⟩

/-- A packet of the overlay that ends behind its message identifier. -/
def sampleStub (messageId : UInt8) : Packet :=
  ⟨⟨⟨1, 1, 1, 1⟩, 1⟩, Packet.frontOf sampleListener.service messageId⟩

theorem receive_unaccepted_sample :
    sampleListener.receive ⟨.empty, []⟩ 0 = sampleListener ∧
      OnlyHeard ⟨⟨1, 1, 1, 1⟩, 1⟩ sampleListener (sampleListener.receive (sampleStub 7) 0) ∧
      OnlyHeard ⟨⟨1, 1, 1, 1⟩, 1⟩ sampleListener (sampleListener.receive (sampleStub 246) 0) := by
  have empty : ∀ (messageId : UInt8) (rest : Bytes),
      [] ≠ Packet.frontOf sampleListener.service messageId ++ rest := by
    intro messageId rest same
    cases same
  have starts (messageId : UInt8) : (sampleStub messageId).data =
      Packet.frontOf sampleListener.service messageId ++ [] := (List.append_nil _).symm
  have unhandled : sampleListener.overlay.reaction? 7 = none :=
    Activity.reaction?_of_no_handlers rfl 7
  have short : (sampleStub 246).FaultyAs .introductionRequest := .truncated (by decide)
  exact ⟨(receive_unaccepted sampleListener ⟨.empty, []⟩ 0).1 empty,
    (receive_unaccepted sampleListener (sampleStub 7) 0).2 7 [] (starts 7) (.inl unhandled),
    (receive_unaccepted sampleListener (sampleStub 246) 0).2 246 [] (starts 246)
      (.inr ⟨.introductionRequest, rfl, short⟩)⟩

end Activity

end PeerDiscovery
