import PeerDiscovery.Proofs.Overlay.Receiving
import PeerDiscovery.Proofs.Packet.Grammar
import PeerDiscovery.Proofs.Registry.Clocks

/-!
# Signed packets that are accepted

An overlay accepts a packet of a member when the packet is signed and whoever
handles its message identifier reads the payload as that of a signed packet, be it
a membership message or a message of the application, sealed or not.  Exactly such a
packet makes its global time known as one of its signer's.

What the handler does besides does not matter: a full overlay turns a requester away,
a response verifies its sender and introduces addresses.
-/

namespace PeerDiscovery

/-- Whether the content of a signed packet is accepted as its payload. -/
def Reaction.Reads (key : PrivateKey) (content : Bytes) : Reaction → Prop
  | .membership .introductionRequest =>
    ∃ request, IntroductionRequest.decode content = .ok request
  | .membership .introductionResponse =>
    ∃ response, IntroductionResponse.decode content = .ok response
  | .membership .puncture => ∃ puncture, Puncture.decode content = .ok puncture
  | .membership .punctureRequest => False
  | .application (.reads .signed format) => ∃ payload, format.decode content = .ok payload
  | .application (.reads .signedAndSealed format) =>
    ∃ text, key.decrypt content = .ok text ∧ ∃ payload, format.decode text = .ok payload
  | .application (.reads .unprotected _) => False
  | .application (.rejects _) => False

/-- The packet is one of the overlay's service, signed by a member at a global time,
and its payload is accepted. -/
inductive Overlay.Accepts (overlay : Overlay) (packet : Packet) : MemberId → UInt64 → Prop where
  | intro (parts : Packet.Parts) (messageId : UInt8) (reaction : Reaction) :
      parts.Genuine → packet.data = parts.bytes →
      parts.front = Packet.frontOf overlay.service messageId →
      overlay.reaction? messageId = some reaction → reaction.Reads overlay.key parts.content →
      Accepts overlay packet parts.key.memberId parts.time

namespace Overlay

/-- What decides which packets are accepted. -/
def reader (overlay : Overlay) :
    PrivateKey × OverlaySettings × Std.ExtTreeMap UInt8 Handler :=
  (overlay.key, overlay.settings, overlay.handlers)

variable {overlay other : Overlay} {packet : Packet}

theorem service_congr (same : other.reader = overlay.reader) : other.service = overlay.service :=
  congrArg (fun reader => reader.2.1.service) same

theorem reaction?_congr (same : other.reader = overlay.reader) (messageId : UInt8) :
    other.reaction? messageId = overlay.reaction? messageId := by
  have sameHandlers : other.handlers = overlay.handlers :=
    congrArg (fun reader => reader.2.2) same
  unfold reaction?
  rw [sameHandlers]

theorem Accepts.congr {member : MemberId} {time : UInt64}
    (accepted : overlay.Accepts packet member time) (same : other.reader = overlay.reader) :
    other.Accepts packet member time := by
  have sameKey : other.key = overlay.key := congrArg (fun reader => reader.1) same
  cases accepted with
  | intro parts messageId reaction genuine whole front reacts reads =>
      refine .intro parts messageId reaction genuine whole ?_ ?_ (sameKey ▸ reads)
      · rw [service_congr same]
        exact front
      · rw [reaction?_congr same]
        exact reacts

theorem accepts_congr (same : other.reader = overlay.reader) (member : MemberId)
    (time : UInt64) : other.Accepts packet member time ↔ overlay.Accepts packet member time :=
  ⟨fun accepted => accepted.congr same.symm, fun accepted => accepted.congr same⟩

/-- A packet is accepted as that of one member and one time. -/
theorem Accepts.unique {member other : MemberId} {time otherTime : UInt64}
    (first : overlay.Accepts packet member time)
    (second : overlay.Accepts packet other otherTime) : other = member ∧ otherTime = time := by
  cases first with
  | intro parts _ _ genuine whole =>
      cases second with
      | intro parts' _ _ genuine' whole' =>
          cases Packet.Parts.bytes_injective (whole'.symm.trans whole) genuine'.length_front
            genuine.length_front
          exact ⟨rfl, rfl⟩

/-- The message identifier says who has to read the packet. -/
theorem accepts_iff {messageId : UInt8} (headed : packet.hasHeader overlay.service = true)
    (numbered : packet.messageId? = some messageId) (member : MemberId) (time : UInt64) :
    overlay.Accepts packet member time ↔
      ∃ (parts : Packet.Parts) (reaction : Reaction), parts.Genuine ∧
        packet.data = parts.bytes ∧ overlay.reaction? messageId = some reaction ∧
        reaction.Reads overlay.key parts.content ∧ parts.key.memberId = member ∧
        parts.time = time := by
  obtain ⟨rest, starts⟩ := Packet.hasHeader_and_messageId?_iff.1 ⟨headed, numbered⟩
  constructor
  · intro accepted
    cases accepted with
    | intro parts otherId reaction genuine whole front reacts reads =>
        have fronts := Packet.Parts.front_eq genuine.length_front (whole.symm.trans starts)
        obtain ⟨-, rfl⟩ := Packet.frontOf_injective (front.symm.trans fronts)
        exact ⟨parts, reaction, genuine, whole, reacts, reads, rfl, rfl⟩
  · rintro ⟨parts, reaction, genuine, whole, reacts, reads, rfl, rfl⟩
    have front := Packet.Parts.front_eq genuine.length_front (whole.symm.trans starts)
    exact .intro parts messageId reaction genuine whole front reacts reads

/-- An accepted packet starts with the front of the service. -/
theorem Accepts.headed {member : MemberId} {time : UInt64}
    (accepted : overlay.Accepts packet member time) :
    packet.hasHeader overlay.service = true ∧ ∃ messageId reaction,
      packet.messageId? = some messageId ∧ overlay.reaction? messageId = some reaction := by
  cases accepted with
  | intro parts messageId reaction genuine whole front reacts reads =>
      obtain ⟨header, numbered⟩ := Packet.Parts.carries whole front
      exact ⟨header, messageId, reaction, numbered, reacts⟩

end Overlay

namespace Activity

/-- What an activity becomes, by what happens to the registry, while the overlay goes
on reading its packets alike. -/
structure Alters (effect : Registry → Registry → Prop) (activity next : Activity) : Prop where
  reader : next.overlay.reader = activity.overlay.reader
  registry : effect activity.known.registry next.known.registry

variable {activity middle next : Activity} {member : MemberId} {time : UInt64}

namespace Alters

theorem mayAdvance (quiet : Alters Registry.SameClocks activity next) (member : MemberId)
    (time : UInt64) : Alters (Registry.MayAdvance member time) activity next :=
  ⟨quiet.reader, quiet.registry.mayAdvance member time⟩

theorem trans (left : Alters (Registry.MayAdvance member time) activity middle)
    (right : Alters (Registry.MayAdvance member time) middle next) :
    Alters (Registry.MayAdvance member time) activity next :=
  ⟨right.reader.trans left.reader, left.registry.trans right.registry⟩

theorem again (left : Alters (Registry.Advances member time) activity middle)
    (right : Alters (Registry.MayAdvance member time) middle next) :
    Alters (Registry.Advances member time) activity next :=
  ⟨right.reader.trans left.reader, left.registry.again right.registry⟩

theorem afterQuiet (left : Alters Registry.SameClocks activity middle)
    (right : Alters (Registry.Advances member time) middle next) :
    Alters (Registry.Advances member time) activity next :=
  ⟨right.reader.trans left.reader, right.registry.of_same left.registry⟩

theorem bothQuiet (left : Alters Registry.SameClocks activity middle)
    (right : Alters Registry.SameClocks middle next) :
    Alters Registry.SameClocks activity next :=
  ⟨right.reader.trans left.reader, left.registry.trans right.registry⟩

end Alters

theorem quiet_sendTo (activity : Activity) (destination : Address) (data : Bytes) :
    Alters Registry.SameClocks activity (activity.sendTo destination data) :=
  ⟨rfl, .of_sameButMarks (Registry.sameButMarks_markSent _ _ _)⟩

theorem quiet_post (activity : Activity) (destination : Address) (data : Bytes) :
    Alters Registry.SameClocks activity (activity.claimTime.sendTo destination data) :=
  ⟨rfl, .of_sameButMarks (Registry.sameButMarks_markSent _ _ _)⟩

theorem quiet_noteHeard (activity : Activity) (packet : Packet) :
    Alters Registry.SameClocks activity (activity.noteHeard packet) :=
  ⟨rfl, .of_sameButMarks (Registry.sameButMarks_markHeard _ _ _)⟩

theorem quiet_learnWan (activity : Activity) (sender wan : Address) :
    Alters Registry.SameClocks activity (activity.learnWan sender wan) := by
  unfold Activity.learnWan
  split <;> exact ⟨rfl, .refl _⟩

theorem mayAdvance_verify (activity : Activity) (peer : Peer) :
    Alters (Registry.MayAdvance peer.memberId peer.clock) activity (activity.verify peer) := by
  have verified := activity.known.registry.mayAdvance_verify peer
  -- services are no part of clocks
  exact ⟨rfl, verified.elsewhere, verified.here⟩

theorem mayAdvance_discoverAll (activity : Activity) (peer : Peer) (addresses : List Address) :
    Alters (Registry.MayAdvance peer.memberId peer.clock) activity
      (addresses.foldl (fun activity address => activity.discover peer address) activity) := by
  induction addresses generalizing activity with
  | nil => exact ⟨rfl, (Registry.SameClocks.refl _).mayAdvance _ _⟩
  | cons address others ih =>
      have next : Alters (Registry.MayAdvance peer.memberId peer.clock) activity
          (activity.discover peer address) := by
        unfold Activity.discover
        split
        · exact ⟨rfl, (Registry.SameClocks.refl _).mayAdvance _ _⟩
        · exact ⟨rfl, Registry.mayAdvance_discover _ _ _ _⟩
      exact next.trans (ih _)

theorem mayAdvance_takeResponse (activity : Activity) (peer : Peer)
    (response : IntroductionResponse) :
    Alters (Registry.MayAdvance peer.memberId peer.clock) activity
      (activity.takeResponse peer response) := by
  have learned := (activity.quiet_learnWan peer.address response.destination).mayAdvance
    peer.memberId peer.clock
  have verified := learned.trans
    (mayAdvance_verify _ (peer.reporting response.sourceLan response.sourceWan))
  exact verified.trans
    (mayAdvance_discoverAll _ (peer.reporting response.sourceLan response.sourceWan) _)

theorem quiet_respond (activity : Activity) (walker : Puncture) (requester : Peer)
    (introduced : Option Peer) :
    Alters Registry.SameClocks activity
      ((activity.askCandidate walker introduced).respond requester walker.identifier
        introduced) := by
  have asked : Alters Registry.SameClocks activity (activity.askCandidate walker introduced) := by
    cases introduced with
    | none => exact ⟨rfl, .refl _⟩
    | some candidate => exact activity.quiet_post _ _
  exact asked.bothQuiet (quiet_post _ _ _)

theorem mayAdvance_answerRequest (activity : Activity) (peer : Peer)
    (request : IntroductionRequest) (pick : Nat) :
    Alters (Registry.MayAdvance peer.memberId peer.clock) activity
      (activity.answerRequest peer request pick) := by
  rw [answerRequest_eq]
  split
  · exact ⟨rfl, (Registry.SameClocks.refl _).mayAdvance _ _⟩
  · have verified := activity.mayAdvance_verify
      (peer.reporting request.sourceLan request.sourceWan)
    exact verified.trans ((quiet_respond _ ⟨_, _, request.identifier⟩ _ _).mayAdvance _ _)

/-- What reading a packet leads to: its signer's clock moves exactly if the payload is
accepted. -/
inductive Heard (activity : Activity) (packet : Packet) (reaction : Reaction) :
    Except PacketError Activity → Prop where
  | accepted (parts : Packet.Parts) (next : Activity) :
      parts.Genuine → packet.data = parts.bytes →
      reaction.Reads activity.overlay.key parts.content →
      Alters (Registry.Advances parts.key.memberId parts.time) activity next →
      Heard activity packet reaction (.ok next)
  | unsigned (next : Activity) :
      (∀ content, ¬reaction.Reads activity.overlay.key content) →
      Alters Registry.SameClocks activity next → Heard activity packet reaction (.ok next)
  | rejected (cause : PacketError) :
      (∀ parts : Packet.Parts, parts.Genuine → packet.data = parts.bytes →
        ¬reaction.Reads activity.overlay.key parts.content) →
      Heard activity packet reaction (.error cause)

/-- How a signed packet has to open for its handler. -/
structure Opens (activity : Activity) (packet : Packet) (reaction : Reaction) {Value : Type}
    (opened : Except PacketError (Signed Value)) : Prop where
  sound : ∀ signed, opened = .ok signed → ∃ parts : Packet.Parts, parts.Genuine ∧
    packet.data = parts.bytes ∧ reaction.Reads activity.overlay.key parts.content ∧
    signed.peer = packet.signer parts.key parts.time activity.moment.now ∧
    signed.globalTime = parts.time
  complete : ∀ parts : Packet.Parts, parts.Genuine → packet.data = parts.bytes →
    reaction.Reads activity.overlay.key parts.content → ∃ signed, opened = .ok signed

theorem opens_openSigned {packet : Packet} {reaction : Reaction} {Value : Type}
    {format : Format Value}
    (reads : ∀ content, reaction.Reads activity.overlay.key content ↔
      ∃ payload, format.decode content = .ok payload) :
    Opens activity packet reaction (packet.openSigned format activity.moment.now) where
  sound signed opened := by
    obtain ⟨parts, payload, rest, genuine, whole, decoded, rfl⟩ :=
      Packet.openSigned_eq_ok_iff.1 opened
    exact ⟨parts, genuine, whole, (reads _).2 ⟨_, decoded⟩, rfl, rfl⟩
  complete parts genuine whole accepted := by
    obtain ⟨⟨payload, rest⟩, decoded⟩ := (reads _).1 accepted
    exact ⟨_, Packet.openSigned_eq_ok_iff.2 ⟨parts, payload, rest, genuine, whole, decoded, rfl⟩⟩

theorem opens_openSealed (packet : Packet) (format : Format Payload) :
    Opens activity packet (.application (.reads .signedAndSealed format))
      (packet.openSealed format activity.overlay.key activity.moment.now) where
  sound signed opened := by
    obtain ⟨parts, text, payload, rest, genuine, whole, unsealed, decoded, rfl⟩ :=
      Packet.openSealed_eq_ok_iff.1 opened
    exact ⟨parts, genuine, whole, ⟨text, unsealed, _, decoded⟩, rfl, rfl⟩
  complete parts genuine whole accepted := by
    obtain ⟨text, unsealed, ⟨payload, rest⟩, decoded⟩ := accepted
    exact ⟨_, Packet.openSealed_eq_ok_iff.2
      ⟨parts, text, payload, rest, genuine, whole, unsealed, decoded, rfl⟩⟩

theorem clock_signer (packet : Packet) (key : PublicKey) (time : UInt64) (now : Instant) :
    (packet.signer key time now).clock = time := by
  change max 0 time = time
  grind [Registry.max_clock_eq]

/-- A handler hears the signer, and then does what the signer's time may move. -/
theorem heard_of_opens {packet : Packet} {reaction : Reaction} {Value : Type}
    {opened : Except PacketError (Signed Value)} (opens : Opens activity packet reaction opened)
    {next : Signed Value → Activity}
    (follows : ∀ signed : Signed Value,
      Alters (Registry.MayAdvance signed.peer.memberId signed.peer.clock) (activity.hear signed)
        (next signed)) :
    Heard activity packet reaction (opened >>= fun signed => pure (next signed)) := by
  cases read : opened with
  | error cause =>
      refine .rejected cause fun parts genuine whole accepted => ?_
      obtain ⟨signed, opened⟩ := opens.complete parts genuine whole accepted
      rw [read] at opened
      cases opened
  | ok signed =>
      obtain ⟨parts, genuine, whole, accepted, signer, sameTime⟩ := opens.sound signed read
      refine .accepted parts _ genuine whole accepted ?_
      have heard : Alters (Registry.Advances signed.peer.memberId signed.globalTime) activity
          (activity.hear signed) :=
        ⟨rfl, Registry.advances_updateClock _ _ _ _⟩
      have later := follows signed
      rw [signer] at heard later
      rw [clock_signer] at later
      rw [sameTime] at heard
      exact heard.again later

theorem heard_react (activity : Activity) (reaction : Reaction) (messageId : UInt8)
    (packet : Packet) (pick : Nat) :
    Heard activity packet reaction (activity.react reaction messageId packet pick) := by
  have still : ∀ {Value : Type} (signed : Signed Value),
      Alters (Registry.MayAdvance signed.peer.memberId signed.peer.clock) (activity.hear signed)
        (activity.hear signed) :=
    fun signed => ⟨rfl, (Registry.SameClocks.refl _).mayAdvance _ _⟩
  have delivered : ∀ signed : Signed Payload,
      Alters (Registry.MayAdvance signed.peer.memberId signed.peer.clock) (activity.hear signed)
        (activity.deliverSigned messageId signed) :=
    fun signed => ⟨rfl, (Registry.SameClocks.refl _).mayAdvance _ _⟩
  cases reaction with
  | membership message =>
      cases message with
      | introductionRequest =>
          exact heard_of_opens (opens_openSigned fun _ => Iff.rfl)
            fun signed => mayAdvance_answerRequest _ _ _ pick
      | introductionResponse =>
          exact heard_of_opens (opens_openSigned fun _ => Iff.rfl)
            fun signed => mayAdvance_takeResponse _ _ _
      | puncture => exact heard_of_opens (opens_openSigned fun _ => Iff.rfl) still
      | punctureRequest =>
          change Heard activity packet _ (packet.openUnsigned Puncture.format >>= fun unsigned =>
            pure (activity.puncture unsigned.payload))
          cases packet.openUnsigned Puncture.format with
          | error cause => exact .rejected cause fun _ _ _ => id
          | ok unsigned => exact .unsigned _ (fun _ => id) (activity.quiet_post _ _)
  | application handler =>
      cases handler with
      | rejects cause => exact .rejected cause fun _ _ _ => id
      | reads protection format =>
          cases protection with
          | signed => exact heard_of_opens (opens_openSigned fun _ => Iff.rfl) delivered
          | signedAndSealed => exact heard_of_opens (opens_openSealed packet format) delivered
          | unprotected =>
              change Heard activity packet _ (packet.openUnsigned format >>= fun unsigned =>
                pure (activity.deliver _))
              cases packet.openUnsigned format with
              | error cause => exact .rejected cause fun _ _ _ => id
              | ok unsigned => exact .unsigned _ (fun _ => id) ⟨rfl, .refl _⟩

/-- A packet moves its signer's clock if it is accepted, and no clock otherwise. -/
inductive Listens (activity : Activity) (packet : Packet) (next : Activity) : Prop where
  | accepted (member : MemberId) (time : UInt64) :
      activity.overlay.Accepts packet member time →
      Alters (Registry.Advances member time) activity next → Listens activity packet next
  | unheeded :
      (∀ member time, ¬activity.overlay.Accepts packet member time) →
      Alters Registry.SameClocks activity next → Listens activity packet next

/-- A packet that somebody handles is accepted exactly if its handler accepts the payload. -/
theorem listens_of_reaction? {messageId : UInt8} {reaction : Reaction} {packet : Packet}
    (headed : packet.hasHeader activity.service = true)
    (numbered : packet.messageId? = some messageId)
    (reacts : activity.overlay.reaction? messageId = some reaction) (pick : Nat) :
    Listens activity packet (activity.receive packet pick) := by
  have noted := activity.quiet_noteHeard packet
  have accepts := Overlay.accepts_iff headed numbered
  have heard := heard_react (activity.noteHeard packet) reaction messageId packet pick
  rw [receive_of_reaction? headed numbered reacts]
  generalize (activity.noteHeard packet).react reaction messageId packet pick = result at heard
  cases heard with
  | accepted parts next genuine whole reads advances =>
      have accepted := (accepts _ _).2
        ⟨parts, reaction, genuine, whole, reacts, reads, rfl, rfl⟩
      exact .accepted _ _ accepted (noted.afterQuiet advances)
  | unsigned next never quiet =>
      refine .unheeded (fun member time accepted => ?_) (noted.bothQuiet quiet)
      obtain ⟨parts, other, -, -, found, reads, -⟩ := (accepts member time).1 accepted
      cases reacts.symm.trans found
      exact never _ reads
  | rejected cause never =>
      refine .unheeded (fun member time accepted => ?_) ⟨noted.reader, noted.registry⟩
      obtain ⟨parts, other, genuine, whole, found, reads, -⟩ := (accepts member time).1 accepted
      cases reacts.symm.trans found
      exact never parts genuine whole reads

theorem listens_receive (activity : Activity) (packet : Packet) (pick : Nat) :
    Listens activity packet (activity.receive packet pick) := by
  by_cases headed : packet.hasHeader activity.service = true
  · by_cases handled : ∃ messageId reaction, packet.messageId? = some messageId ∧
        activity.overlay.reaction? messageId = some reaction
    · obtain ⟨messageId, reaction, numbered, reacts⟩ := handled
      exact listens_of_reaction? headed numbered reacts pick
    · have unhandled : ∀ messageId, packet.messageId? = some messageId →
          activity.overlay.reaction? messageId = none := by
        intro messageId numbered
        rw [Option.eq_none_iff_forall_ne_some]
        intro reaction reacts
        exact handled ⟨messageId, reaction, numbered, reacts⟩
      rw [receive_of_reaction?_eq_none headed unhandled]
      exact .unheeded (fun member time accepted => handled accepted.headed.2)
        (activity.quiet_noteHeard packet)
  · have foreign : packet.hasHeader activity.service = false := by simpa using headed
    rw [receive_of_foreign foreign]
    exact .unheeded (fun member time accepted => headed accepted.headed.1) ⟨rfl, .refl _⟩

/-- No packet changes how the overlay reads packets. -/
theorem reader_receive (activity : Activity) (packet : Packet) (pick : Nat) :
    (activity.receive packet pick).overlay.reader = activity.overlay.reader := by
  cases activity.listens_receive packet pick with
  | accepted member time accepts advances => exact advances.reader
  | unheeded never quiet => exact quiet.reader

end Activity

end PeerDiscovery
