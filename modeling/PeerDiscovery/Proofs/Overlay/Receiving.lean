import PeerDiscovery.Overlay.Dispatch
import PeerDiscovery.Proofs.Overlay.Walking
import PeerDiscovery.Proofs.Payload.RoundTrip

/-!
# What an overlay does with a packet

An overlay with the membership messages only has few ways to react to a packet.
`Outcome` lists them: besides marking the peer at the source, a packet changes
something only if it opens as one of the four messages.
-/

namespace PeerDiscovery

theorem MembershipMessage.ofId?_eq_some_iff {messageId : UInt8} {message : MembershipMessage} :
    MembershipMessage.ofId? messageId = some message ↔ messageId = message.id := by
  constructor
  · intro found
    unfold MembershipMessage.ofId? at found
    split at found
    · cases found; assumption
    split at found
    · cases found; assumption
    split at found
    · cases found; assumption
    split at found
    · cases found; assumption
    · cases found
  · rintro rfl
    exact MembershipMessage.ofId?_id message

theorem Overlay.reaction?_id (overlay : Overlay) (message : MembershipMessage) :
    overlay.reaction? message.id = some (.membership message) := by
  simp only [reaction?, MembershipMessage.ofId?_id]

/-- The packet belongs to the overlay of a service and says that it is a
membership message. -/
def Packet.Carries (packet : Packet) (service : ServiceId) (message : MembershipMessage) :
    Prop :=
  packet.hasHeader service = true ∧ packet.messageId? = some message.id

namespace Activity

/-- The activity once the peer at the source of a packet counts as alive. -/
def noteHeard (activity : Activity) (packet : Packet) : Activity :=
  activity.onRegistry (·.markHeard packet.source activity.moment.now)

/-- What becomes of an overlay with no handlers of its own when it receives a
packet. -/
inductive Outcome (activity : Activity) (packet : Packet) (pick : Nat) : Activity → Prop where
  | foreign : packet.hasHeader activity.service = false → Outcome activity packet pick activity
  | unhandled : Outcome activity packet pick (activity.noteHeard packet)
  | rejected (messageId : UInt8) (cause : PacketError) :
      Outcome activity packet pick
        ((activity.noteHeard packet).tell (.rejected messageId packet.source cause))
  | request (signed : Signed IntroductionRequest) :
      packet.Carries activity.service .introductionRequest →
      packet.openSigned IntroductionRequest.format activity.moment.now = .ok signed →
      Outcome activity packet pick
        (((activity.noteHeard packet).hear signed).answerRequest signed.peer signed.payload pick)
  | response (signed : Signed IntroductionResponse) :
      packet.Carries activity.service .introductionResponse →
      packet.openSigned IntroductionResponse.format activity.moment.now = .ok signed →
      Outcome activity packet pick
        (((activity.noteHeard packet).hear signed).takeResponse signed.peer signed.payload)
  | puncture (signed : Signed Puncture) :
      packet.Carries activity.service .puncture →
      packet.openSigned Puncture.format activity.moment.now = .ok signed →
      Outcome activity packet pick ((activity.noteHeard packet).hear signed)
  | punctureRequest (unsigned : Unsigned Puncture) :
      packet.Carries activity.service .punctureRequest →
      packet.openUnsigned Puncture.format = .ok unsigned →
      Outcome activity packet pick ((activity.noteHeard packet).puncture unsigned.payload)

variable {activity : Activity} {packet : Packet}

theorem reaction?_of_no_handlers {overlay : Overlay} (builtIn : overlay.handlers = ∅)
    (messageId : UInt8) :
    overlay.reaction? messageId =
      (MembershipMessage.ofId? messageId).map Reaction.membership := by
  unfold Overlay.reaction?
  cases MembershipMessage.ofId? messageId with
  | some message => rfl
  | none => simp [builtIn]

theorem receive_of_foreign (foreign : packet.hasHeader activity.service = false) (pick : Nat) :
    activity.receive packet pick = activity := by
  unfold receive
  rw [foreign]
  rfl

theorem receive_of_reaction?_eq_none (headed : packet.hasHeader activity.service = true)
    (unhandled : ∀ messageId : UInt8, packet.messageId? = some messageId →
      activity.overlay.reaction? messageId = none) (pick : Nat) :
    activity.receive packet pick = activity.noteHeard packet := by
  unfold receive
  rw [if_pos headed]
  cases numbered : packet.messageId? with
  | none => rfl
  | some messageId =>
      have silent := unhandled messageId numbered
      simp only [onRegistry, silent]
      rfl

theorem receive_of_reaction? {messageId : UInt8} {reaction : Reaction}
    (headed : packet.hasHeader activity.service = true)
    (numbered : packet.messageId? = some messageId)
    (reacts : activity.overlay.reaction? messageId = some reaction) (pick : Nat) :
    activity.receive packet pick =
      match (activity.noteHeard packet).react reaction messageId packet pick with
      | .ok next => next
      | .error cause =>
        (activity.noteHeard packet).tell (.rejected messageId packet.source cause) := by
  unfold receive
  rw [if_pos headed]
  simp only [onRegistry, numbered, reacts]
  rfl

theorem receive_of_carries {message : MembershipMessage}
    (carried : packet.Carries activity.service message) (pick : Nat) :
    activity.receive packet pick =
      match (activity.noteHeard packet).takeMembership message packet pick with
      | .ok next => next
      | .error cause =>
        (activity.noteHeard packet).tell (.rejected message.id packet.source cause) :=
  receive_of_reaction? carried.1 carried.2 (activity.overlay.reaction?_id message) pick

theorem receive_of_takeMembership {message : MembershipMessage} {next : Activity} {pick : Nat}
    (carried : packet.Carries activity.service message)
    (taken : (activity.noteHeard packet).takeMembership message packet pick = .ok next) :
    activity.receive packet pick = next := by
  rw [receive_of_carries carried, taken]

/-- A membership message that opens has one of four effects. -/
theorem outcome_of_takeMembership {message : MembershipMessage} {next : Activity} {pick : Nat}
    (carried : packet.Carries activity.service message)
    (taken : (activity.noteHeard packet).takeMembership message packet pick = .ok next) :
    Outcome activity packet pick next := by
  cases message with
  | introductionRequest =>
      obtain ⟨signed, opened, ⟨⟩⟩ := bind_eq_ok_iff.1 taken
      exact .request signed carried opened
  | introductionResponse =>
      obtain ⟨signed, opened, ⟨⟩⟩ := bind_eq_ok_iff.1 taken
      exact .response signed carried opened
  | puncture =>
      obtain ⟨signed, opened, ⟨⟩⟩ := bind_eq_ok_iff.1 taken
      exact .puncture signed carried opened
  | punctureRequest =>
      obtain ⟨unsigned, opened, ⟨⟩⟩ := bind_eq_ok_iff.1 taken
      exact .punctureRequest unsigned carried opened

theorem outcome_receive (builtIn : activity.overlay.handlers = ∅) (packet : Packet)
    (pick : Nat) : Outcome activity packet pick (activity.receive packet pick) := by
  by_cases headed : packet.hasHeader activity.service = true
  · by_cases named : ∃ message : MembershipMessage, packet.messageId? = some message.id
    · obtain ⟨message, numbered⟩ := named
      have carried : packet.Carries activity.service message := ⟨headed, numbered⟩
      cases taken : (activity.noteHeard packet).takeMembership message packet pick with
      | ok next =>
          rw [receive_of_takeMembership carried taken]
          exact outcome_of_takeMembership carried taken
      | error cause =>
          rw [receive_of_carries carried, taken]
          exact .rejected message.id cause
    · have unhandled : ∀ messageId : UInt8, packet.messageId? = some messageId →
          activity.overlay.reaction? messageId = none := by
        intro messageId numbered
        rw [reaction?_of_no_handlers builtIn, Option.map_eq_none_iff,
          Option.eq_none_iff_forall_ne_some]
        intro message found
        rw [MembershipMessage.ofId?_eq_some_iff] at found
        exact named ⟨message, found ▸ numbered⟩
      rw [receive_of_reaction?_eq_none headed unhandled]
      exact .unhandled
  · have foreign : packet.hasHeader activity.service = false := by simpa using headed
    rw [receive_of_foreign foreign]
    exact .foreign foreign

def askCandidate (activity : Activity) (walker : Puncture) : Option Peer → Activity
  | some candidate => activity.requestPuncture candidate walker
  | none => activity

def respond (activity : Activity) (requester : Peer) (identifier : UInt16)
    (introduced : Option Peer) : Activity :=
  (activity.writeResponse requester identifier introduced).2.sendToPeer requester
    (activity.writeResponse requester identifier introduced).1

theorem requestPuncture_eq (activity : Activity) (candidate : Peer) (walker : Puncture) :
    activity.requestPuncture candidate walker =
      activity.claimTime.sendTo (activity.whereabouts candidate)
        ((activity.claimTime.overlay.draft MembershipMessage.punctureRequest.id false).frame
          walker.encode) := rfl

theorem respond_eq (activity : Activity) (requester : Peer) (identifier : UInt16)
    (introduced : Option Peer) :
    activity.respond requester identifier introduced =
      activity.claimTime.sendTo (activity.whereabouts requester)
        ((activity.claimTime.overlay.draft MembershipMessage.introductionResponse.id true).frame
          (activity.response requester identifier introduced).encode) := rfl

theorem puncture_eq (activity : Activity) (walker : Puncture) :
    activity.puncture walker =
      activity.claimTime.sendTo (punctureTarget activity.wan walker)
        ((activity.claimTime.overlay.draft MembershipMessage.puncture.id true).frame
          (⟨activity.lan, activity.wan, walker.identifier⟩ : Puncture).encode) := rfl

theorem answerRequest_eq (activity : Activity) (peer : Peer) (request : IntroductionRequest)
    (pick : Nat) :
    activity.answerRequest peer request pick =
      if activity.isFull then activity.tell (.full peer)
      else
        let requester := peer.reporting request.sourceLan request.sourceWan
        let verified := activity.verify requester
        let introduced := verified.introduction? (some requester.memberId) pick
        (verified.askCandidate ⟨requester.lan, requester.wan, request.identifier⟩
          introduced).respond requester request.identifier introduced := by
  unfold answerRequest
  split
  · rfl
  · dsimp only
    generalize (activity.verify (peer.reporting request.sourceLan request.sourceWan)).introduction?
      (some (peer.reporting request.sourceLan request.sourceWan).memberId) pick = introduced
    cases introduced <;> rfl

/-- Whoever is introduced is a verified peer of the service and not the member that
is excluded. -/
theorem introduction?_eq_some {activity : Activity} {excluded : Option MemberId} {pick : Nat}
    {peer : Peer} (chosen : activity.introduction? excluded pick = some peer) :
    some peer.memberId ≠ excluded ∧
      ∃ member : MemberId, activity.known.registry.verified[member]? = some peer ∧
        activity.known.registry.advertises member activity.service = true := by
  have candidate := mem_of_choose?_eq_some chosen
  rw [List.mem_filter, bne_iff_ne] at candidate
  obtain ⟨listed, other⟩ := candidate
  obtain ⟨⟨member, record⟩, stored, rfl⟩ := List.mem_map.1 listed
  exact ⟨other, member, activity.known.registry.mem_peersFor.1 stored⟩

/-- A candidate address is one that was told, or its WAN port on the own network. -/
theorem mem_candidates {ownLan ownWan lan wan address : Address}
    (listed : address ∈ candidates ownLan ownWan lan wan) :
    (address = lan ∧ lan ≠ .empty) ∨ (address = wan ∧ wan ≠ .empty) ∨
      (address = ⟨ownLan.ip, wan.port⟩ ∧ wan ≠ .empty) := by
  unfold candidates at listed
  split at listed
  · rename_i elsewhere
    have known : wan ≠ .empty := by
      rw [Bool.and_eq_true, Bool.not_eq_true', Address.isEmpty_eq_false_iff] at elsewhere
      exact elsewhere.1
    split at listed
    · exact .inr (.inl ⟨List.mem_singleton.1 listed, known⟩)
    · rename_i told
      rw [Address.isEmpty_iff] at told
      rcases List.mem_cons.1 listed with first | second
      · exact .inl ⟨first, told⟩
      · exact .inr (.inl ⟨List.mem_singleton.1 second, known⟩)
  split at listed
  · rename_i nearby
    rw [Bool.and_eq_true, Bool.not_eq_true', Address.isEmpty_eq_false_iff] at nearby
    exact .inl ⟨List.mem_singleton.1 listed, nearby.1⟩
  split at listed
  · rename_i known
    rw [Bool.not_eq_true', Address.isEmpty_eq_false_iff] at known
    rcases List.mem_cons.1 listed with first | second
    · exact .inr (.inl ⟨first, known⟩)
    · exact .inr (.inr ⟨List.mem_singleton.1 second, known⟩)
  · cases listed

end Activity

end PeerDiscovery
