import PeerDiscovery.Proofs.Network.Acquaintance
import PeerDiscovery.Proofs.Overlay.Reports

/-!
# The four messages of an introduction

What each of three hosts does with the message that is addressed to it, one
message at a time: the walker sends a request, the introducer a puncture
request and a response, and the candidate a puncture.  Every step is described
by what is sent and by what the registry holds afterwards.

A message has an effect only if its signature verifies.  `Vouches` says so of a
single message of a host.
-/

namespace PeerDiscovery

namespace Host

/-- The host's own signature of one of its messages verifies. -/
def Vouches (host : Host) (message : MembershipMessage) (time : UInt64) (content : Bytes) :
    Prop :=
  ((host.draft message time).parts host.key content).Genuine

/-- The request of a host that knows its own addresses. -/
def request (host : Host) (destination : Address) (connection : ConnectionType)
    (identifier : UInt16) : IntroductionRequest :=
  { destination
    sourceLan := host.lan
    sourceWan := host.wan
    advice := true
    connection
    identifier
    extra := [] }

def response (host requester introduced : Host) (connection : ConnectionType)
    (identifier : UInt16) : IntroductionResponse :=
  { destination := requester.wan
    sourceLan := host.lan
    sourceWan := host.wan
    introLan := introduced.lan
    introWan := introduced.wan
    connection
    tunnel := false
    identifier
    extra := [] }

def puncture (host : Host) (identifier : UInt16) : Puncture := ⟨host.lan, host.wan, identifier⟩

/-- The overlay is the host's, and knows the addresses of the host. -/
structure Settled (host : Host) (activity : Activity) : Prop where
  key : activity.overlay.key = host.key
  configured : activity.overlay.settings = host.settings
  lan : activity.lan = host.lan
  wan : activity.wan = host.wan

namespace Settled

variable {host : Host} {activity : Activity}

theorem of_known {overlay : Overlay} {known : Neighbourhood} (key : overlay.key = host.key)
    (configured : overlay.settings = host.settings) (lan : overlay.lan = host.lan)
    (names : known.wanLog.Names host.wan) (reported : known.wanLog.reports ≠ [])
    (moment : Moment) : host.Settled (.start overlay known moment) where
  key := key
  configured := configured
  lan := lan
  wan := by
    have estimated : known.wanLog.estimate? = some host.wan := by
      rw [names.estimate?_eq, if_neg reported]
    have known : known.wan = host.wan := by
      rw [Neighbourhood.wan, estimated]
      rfl
    exact known

theorem service (settled : host.Settled activity) : activity.service = host.service :=
  congrArg OverlaySettings.service settled.configured

theorem onRegistry (settled : host.Settled activity) (change : Registry → Registry) :
    host.Settled (activity.onRegistry change) :=
  ⟨settled.key, settled.configured, settled.lan, settled.wan⟩

theorem send (settled : host.Settled activity) (destination : Address) (data : Bytes) :
    host.Settled (activity.claimTime.sendTo destination data) :=
  ⟨settled.key, settled.configured, settled.lan, settled.wan⟩

theorem draft_eq (settled : host.Settled activity) {message : MembershipMessage}
    (signs : message ≠ .punctureRequest) :
    activity.claimTime.overlay.draft message.id true =
      host.draft message (activity.overlay.globalTime + 1) :=
  Host.draft_eq (show activity.claimTime.overlay.key = host.key from settled.key)
    settled.configured signs

theorem unsigned_draft_eq (settled : host.Settled activity) :
    activity.claimTime.overlay.draft MembershipMessage.punctureRequest.id false =
      host.draft .punctureRequest (activity.overlay.globalTime + 1) :=
  Host.unsigned_draft_eq
    (show activity.claimTime.overlay.settings = host.settings from settled.configured)

theorem walkTo_eq (settled : host.Settled activity) (destination : Address) :
    activity.walkTo destination =
      activity.claimTime.sendTo destination
        ((host.draft .introductionRequest (activity.overlay.globalTime + 1)).frame
          (host.request destination activity.known.wanLog.connection
            (IntroductionRequest.identifierAt (activity.overlay.globalTime + 1))).encode) := by
  have written : activity.claimTime.request destination [] =
      host.request destination activity.known.wanLog.connection
        (IntroductionRequest.identifierAt (activity.overlay.globalTime + 1)) := by
    refine IntroductionRequest.ext rfl settled.lan settled.wan rfl rfl rfl rfl
  rw [Activity.walkTo_eq, settled.draft_eq (by decide), written]

theorem puncture_eq (settled : host.Settled activity) (walker : Puncture) :
    activity.puncture walker =
      activity.claimTime.sendTo (Activity.punctureTarget host.wan walker)
        ((host.draft .puncture (activity.overlay.globalTime + 1)).frame
          (host.puncture walker.identifier).encode) := by
  rw [Activity.puncture_eq, settled.draft_eq (by decide), settled.lan, settled.wan]
  rfl

end Settled

variable {host : Host} {packet : Packet} {time : UInt64} {content : Bytes}
  {message : MembershipMessage}

theorem carries (whole : packet.data = (host.draft message time).frame content)
    {service : ServiceId} (own : service = host.service) : packet.Carries service message :=
  (Packet.Draft.carries_frame_iff whole).2 ⟨own.symm, rfl⟩

/-- A vouched message of a host opens as what the host wrote. -/
theorem Vouches.openSigned (vouched : host.Vouches message time content)
    (signs : message ≠ .punctureRequest)
    (whole : packet.data = (host.draft message time).frame content) {Value : Type}
    {format : Format Value} {payload : Value} (decoded : format.decode content = .ok (payload, []))
    (now : Instant) :
    packet.openSigned format now =
      .ok ⟨packet.signer host.key.publicKey time now, time, payload⟩ :=
  (Packet.Draft.openSigned_frame_iff (if_neg signs) whole).2
    ⟨vouched, payload, [], decoded, rfl⟩

end Host

namespace Activity

variable {host : Host} {activity : Activity} {packet : Packet} {time : UInt64}

theorem sameContacts_send (activity : Activity) (destination : Address) (data : Bytes) :
    activity.known.registry.SameContacts
      (activity.claimTime.sendTo destination data).known.registry :=
  .of_sameButMarks (Registry.sameButMarks_markSent _ _ _)

/-- A packet that is received changes clocks and marks before it is handled. -/
theorem sameContacts_hear {Value : Type} (activity : Activity) (packet : Packet)
    (signed : Signed Value) :
    activity.known.registry.SameContacts
      ((activity.noteHeard packet).hear signed).known.registry :=
  (Registry.SameContacts.of_sameButMarks (Registry.sameButMarks_markHeard _ _ _)).trans
    (.updateClock _ _ _ _)

theorem receive_request {request : IntroductionRequest}
    (vouched : host.Vouches .introductionRequest time request.encode)
    (whole : packet.data = (host.draft .introductionRequest time).frame request.encode)
    (service : activity.service = host.service) (pick : Nat) :
    activity.receive packet pick =
      ((activity.noteHeard packet).hear
        (⟨packet.signer host.key.publicKey time activity.moment.now, time, request⟩ :
          Signed IntroductionRequest)).answerRequest
        (packet.signer host.key.publicKey time activity.moment.now) request pick := by
  have decoded : IntroductionRequest.format.decode request.encode = .ok (request, []) :=
    request.decode_encode
  have opened := vouched.openSigned (by decide) whole decoded activity.moment.now
  exact receive_of_takeMembership (Host.carries whole service)
    (bind_eq_ok_iff.2 ⟨_, opened, rfl⟩)

theorem receive_response {response : IntroductionResponse}
    (vouched : host.Vouches .introductionResponse time response.encode)
    (whole : packet.data = (host.draft .introductionResponse time).frame response.encode)
    (service : activity.service = host.service) (pick : Nat) :
    activity.receive packet pick =
      ((activity.noteHeard packet).hear
        (⟨packet.signer host.key.publicKey time activity.moment.now, time, response⟩ :
          Signed IntroductionResponse)).takeResponse
        (packet.signer host.key.publicKey time activity.moment.now) response := by
  have decoded : IntroductionResponse.format.decode response.encode = .ok (response, []) :=
    response.decode_encode
  have opened := vouched.openSigned (by decide) whole decoded activity.moment.now
  exact receive_of_takeMembership (Host.carries whole service)
    (bind_eq_ok_iff.2 ⟨_, opened, rfl⟩)

theorem receive_puncture {puncture : Puncture}
    (vouched : host.Vouches .puncture time puncture.encode)
    (whole : packet.data = (host.draft .puncture time).frame puncture.encode)
    (service : activity.service = host.service) (pick : Nat) :
    activity.receive packet pick =
      (activity.noteHeard packet).hear
        (⟨packet.signer host.key.publicKey time activity.moment.now, time, puncture⟩ :
          Signed Puncture) := by
  have decoded : Puncture.format.decode puncture.encode = .ok (puncture, []) := by
    have readBack := puncture.decode_encode_append []
    rw [List.append_nil] at readBack
    exact readBack
  have opened := vouched.openSigned (by decide) whole decoded activity.moment.now
  exact receive_of_takeMembership (Host.carries whole service)
    (bind_eq_ok_iff.2 ⟨_, opened, rfl⟩)

theorem receive_punctureRequest {walker : Puncture}
    (whole : packet.data = (host.draft .punctureRequest time).frame walker.encode)
    (service : activity.service = host.service) (pick : Nat) :
    activity.receive packet pick = (activity.noteHeard packet).puncture walker := by
  have decoded : Puncture.format.decode walker.encode = .ok (walker, []) := by
    have readBack := walker.decode_encode_append []
    rw [List.append_nil] at readBack
    exact readBack
  have plain : (host.draft .punctureRequest time).signer = none := rfl
  have opened := Packet.Draft.openUnsigned_frame plain whole decoded
  exact receive_of_takeMembership (Host.carries whole service)
    (bind_eq_ok_iff.2 ⟨_, opened, rfl⟩)

end Activity

namespace Host.Settled

variable {introducer walker candidate : Host} {activity : Activity}

/-- Whoever asks is introduced to the only other peer. -/
theorem introduction?_verify (settled : introducer.Settled activity)
    (lone : activity.known.registry.Lone introducer.service candidate) {requester : Peer}
    (welcomes : activity.known.registry.Welcomes requester)
    (other : requester.memberId ≠ candidate.memberId) (pick : Nat) :
    ∃ peer : Peer, peer.contact = candidate.contact ∧
      (activity.verify requester).known.registry.verified[candidate.memberId]? = some peer ∧
      (activity.verify requester).introduction? (some requester.memberId) pick = some peer := by
  have contacts := welcomes.contact?_verify fun known found => lone.keyed _ known found
  have stored : (activity.verify requester).known.registry.contact? candidate.memberId =
      some candidate.contact := by
    have verified := contacts candidate.memberId
    rw [if_neg other, lone.stored] at verified
    exact verified
  obtain ⟨peer, found, contact⟩ := Registry.contact?_eq_some_iff.1 stored
  have offers : ∀ member : MemberId,
      (activity.verify requester).known.registry.advertises member introducer.service = true ↔
        activity.known.registry.advertises member introducer.service = true ∨
          requester.memberId = member := by
    intro member
    have added := Registry.advertises_addServices (activity.known.registry.verify requester)
      requester.memberId member [activity.service] introducer.service
    rw [Registry.advertises_congr (Registry.services_verify _ _), settled.service,
      List.mem_singleton, eq_self, and_true] at added
    rw [← added, ← settled.service]
    rfl
  have notExcluded : (some peer.memberId != some requester.memberId) = true := by
    have member : peer.memberId = candidate.memberId := congrArg Contact.member contact
    rw [bne_iff_ne, member]
    exact fun same => other (Option.some.inj same).symm
  have remaining := Registry.filter_peersFor_eq (activity.verify requester).known.registry
    introducer.service (fun entry => some entry.2.memberId != some requester.memberId) found
    ((offers _).2 (.inl lone.advertises)) notExcluded ?_
  · refine ⟨peer, contact, found, ?_⟩
    have peers : (activity.verify requester).peers.filter
        (fun peer => some peer.memberId != some requester.memberId) = [peer] := by
      unfold Activity.peers
      rw [show (activity.verify requester).service = introducer.service from settled.service,
        List.filter_map]
      exact congrArg (List.map Prod.snd) remaining
    rw [Activity.introduction?, peers]
    simp [choose?, Nat.mod_one]
  · intro member record known advertised kept
    rw [bne_iff_ne] at kept
    have contact := contacts member
    rw [show (activity.known.registry.verify requester).contact? member = some record.contact
      from Registry.contact?_of_stored known] at contact
    by_cases same : requester.memberId = member
    · -- the requester's own record is the one that is left out
      rw [if_pos same] at contact
      have alike : record.memberId = requester.memberId :=
        congrArg Contact.member (Option.some.inj contact)
      exact absurd (congrArg some alike) kept
    · rw [if_neg same] at contact
      obtain ⟨earlier, found, -⟩ := Registry.contact?_eq_some_iff.1 contact.symm
      exact lone.alone member earlier found (((offers member).1 advertised).resolve_right same)

theorem whereabouts_eq {peer : Peer} {contact : Contact}
    (stored : activity.known.registry.contact? peer.memberId = some contact) :
    activity.whereabouts peer = contact.address := by
  obtain ⟨record, found, rfl⟩ := Registry.contact?_eq_some_iff.1 stored
  unfold Activity.whereabouts
  rw [found]
  rfl

theorem isFull_eq_false (settled : introducer.Settled activity)
    (lone : activity.known.registry.Lone introducer.service candidate)
    (room : ∀ limit, introducer.settings.maxPeers = some limit → 2 ≤ limit) :
    activity.isFull = false := by
  have one : activity.peers.length = 1 := by
    rw [Activity.peers, List.length_map, settled.service]
    exact lone.length_peersFor
  unfold Activity.isFull
  rw [settled.configured, one]
  cases limit : introducer.settings.maxPeers with
  | none => rfl
  | some limit =>
      have two := room _ limit
      simp only [Option.any_some, decide_eq_false_iff_not]
      omega

theorem requestPuncture_eq (settled : introducer.Settled activity) {peer : Peer}
    (stored : activity.known.registry.contact? peer.memberId = some candidate.contact)
    (identifier : UInt16) :
    activity.requestPuncture peer (walker.puncture identifier) =
      activity.claimTime.sendTo candidate.wan
        ((introducer.draft .punctureRequest (activity.overlay.globalTime + 1)).frame
          (walker.puncture identifier).encode) := by
  rw [Activity.requestPuncture_eq, settled.unsigned_draft_eq, whereabouts_eq stored]
  rfl

theorem respond_eq (settled : introducer.Settled activity) {requester introduced : Peer}
    (shown : requester.contact = walker.contact) (contact : introduced.contact = candidate.contact)
    (stored : activity.known.registry.contact? requester.memberId = some walker.contact)
    (identifier : UInt16) :
    activity.respond requester identifier (some introduced) =
      activity.claimTime.sendTo walker.wan
        ((introducer.draft .introductionResponse (activity.overlay.globalTime + 1)).frame
          (introducer.response walker candidate activity.known.wanLog.connection
            identifier).encode) := by
  have written : activity.response requester identifier (some introduced) =
      introducer.response walker candidate activity.known.wanLog.connection identifier :=
    IntroductionResponse.ext (congrArg Contact.address shown) settled.lan settled.wan
      (congrArg Contact.lan contact) (congrArg Contact.wan contact) rfl rfl rfl rfl
  rw [Activity.respond_eq, settled.draft_eq (by decide), whereabouts_eq stored, written]
  rfl

/-- The introducer asks the candidate for a puncture, and tells the walker of the
candidate. -/
theorem answerRequest_spec (settled : introducer.Settled activity)
    (lone : activity.known.registry.Lone introducer.service candidate) {peer : Peer}
    (request : IntroductionRequest)
    (shown : (peer.reporting request.sourceLan request.sourceWan).contact = walker.contact)
    (welcomes : activity.known.registry.Welcomes
      (peer.reporting request.sourceLan request.sourceWan))
    (other : walker.memberId ≠ candidate.memberId)
    (room : ∀ limit, introducer.settings.maxPeers = some limit → 2 ≤ limit) (pick : Nat) :
    (activity.answerRequest peer request pick).sent = activity.sent ++
        [⟨candidate.wan,
            (introducer.draft .punctureRequest (activity.overlay.globalTime + 1)).frame
              (walker.puncture request.identifier).encode⟩,
          ⟨walker.wan,
            (introducer.draft .introductionResponse (activity.overlay.globalTime + 1 + 1)).frame
              (introducer.response walker candidate activity.known.wanLog.connection
                request.identifier).encode⟩] ∧
      ((activity.known.registry.verify
        (peer.reporting request.sourceLan request.sourceWan)).addServices walker.memberId
          [introducer.service]).SameContacts
        (activity.answerRequest peer request pick).known.registry := by
  rw [Activity.answerRequest_eq, settled.isFull_eq_false lone room, if_neg Bool.false_ne_true]
  dsimp only
  generalize peer.reporting request.sourceLan request.sourceWan = requester at *
  have member : requester.memberId = walker.memberId := congrArg Contact.member shown
  have differs : requester.memberId ≠ candidate.memberId := by
    rw [member]
    exact other
  obtain ⟨introduced, contact, stored, chosen⟩ :=
    settled.introduction?_verify lone welcomes differs pick
  have named : introduced.memberId = candidate.memberId := congrArg Contact.member contact
  have found : (activity.verify requester).known.registry.contact? introduced.memberId =
      some candidate.contact := by
    rw [named, ← contact]
    exact Registry.contact?_of_stored stored
  have naming : (⟨requester.lan, requester.wan, request.identifier⟩ : Puncture) =
      walker.puncture request.identifier :=
    Puncture.ext (congrArg Contact.lan shown) (congrArg Contact.wan shown) rfl
  -- the puncture request goes to the candidate
  have settledThen : introducer.Settled (activity.verify requester) := settled.onRegistry _
  rw [chosen, Activity.askCandidate, naming, settledThen.requestPuncture_eq found]
  -- the response goes to the walker
  have verified : ∀ destination data,
      ((activity.verify requester).claimTime.sendTo destination data).known.registry.contact?
        requester.memberId = some walker.contact := by
    intro destination data
    have contacts := welcomes.contact?_verify fun known found => lone.keyed _ known found
    rw [((activity.verify requester).sameContacts_send destination data).contacts, ← shown]
    exact (contacts requester.memberId).trans (if_pos rfl)
  rw [(settledThen.send _ _).respond_eq shown contact (verified _ _)]
  constructor
  · rw [Activity.sent_sendTo]
    exact List.append_assoc activity.sent [_] [_]
  · rw [← member, ← settled.service]
    have asked := (activity.verify requester).sameContacts_send candidate.wan
    exact (asked _).trans (Activity.sameContacts_send _ _ _)

end Host.Settled

/-- Three hosts of one service, with different keys and different addresses, none of
which is a bootstrap address. -/
structure Triangle (walker introducer candidate : Host) : Prop where
  introducerService : introducer.service = walker.service
  candidateService : candidate.service = walker.service
  keys : [walker, introducer, candidate].Pairwise fun first second =>
    first.key.publicKey ≠ second.key.publicKey
  collisionFree : ∀ first ∈ [walker, introducer, candidate],
    ∀ second ∈ [walker, introducer, candidate], first.memberId = second.memberId →
      first.key.publicKey = second.key.publicKey
  different : [walker.lan, walker.wan, introducer.lan, introducer.wan, candidate.lan,
    candidate.wan].Nodup
  known : ∀ host ∈ [walker, introducer, candidate], host.lan ≠ .empty ∧ host.wan ≠ .empty
  unlisted : ∀ host ∈ [walker, introducer, candidate],
    ∀ other ∈ [walker, introducer, candidate],
      other.lan ∉ host.settings.bootstrap ∧ other.wan ∉ host.settings.bootstrap

/-- Where a walker looks for a candidate: at both of its addresses, or behind the
walker's own router at its LAN address only. -/
def Host.places (walker candidate : Host) : List Address :=
  if candidate.wan.ip ≠ walker.wan.ip then [candidate.lan, candidate.wan] else [candidate.lan]

theorem Host.mem_of_mem_places {walker candidate : Host} {address : Address}
    (listed : address ∈ walker.places candidate) :
    address = candidate.lan ∨ address = candidate.wan := by
  unfold places at listed
  split at listed
  · rcases List.mem_cons.1 listed with first | second
    · exact .inl first
    · exact .inr (List.mem_singleton.1 second)
  · exact .inl (List.mem_singleton.1 listed)

namespace Triangle

variable {walker introducer candidate : Host}

theorem walker_ne_introducer (triangle : Triangle walker introducer candidate) :
    walker.memberId ≠ introducer.memberId := by
  intro same
  have keys := List.pairwise_cons.1 triangle.keys
  exact keys.1 introducer (by simp)
    (triangle.collisionFree walker (by simp) introducer (by simp) same)

theorem walker_ne_candidate (triangle : Triangle walker introducer candidate) :
    walker.memberId ≠ candidate.memberId := by
  intro same
  have keys := List.pairwise_cons.1 triangle.keys
  exact keys.1 candidate (by simp)
    (triangle.collisionFree walker (by simp) candidate (by simp) same)

theorem foreign_wans (triangle : Triangle walker introducer candidate) :
    ¬(introducer.wan = walker.lan ∨ introducer.wan = walker.wan) ∧
      ¬(candidate.wan = walker.lan ∨ candidate.wan = walker.wan) ∧
      ¬(candidate.wan = introducer.lan ∨ candidate.wan = introducer.wan) := by
  have different := triangle.different
  simp only [List.nodup_cons, List.mem_cons, List.not_mem_nil, not_or] at different
  grind

/-- A place of the candidate may be recorded, and is neither the walker's nor the
introducer's. -/
theorem foreign_places (triangle : Triangle walker introducer candidate) {address : Address}
    (listed : address ∈ walker.places candidate) :
    address ≠ .empty ∧ address ≠ walker.lan ∧ address ≠ walker.wan ∧
      introducer.wan ≠ address ∧ address ∉ walker.settings.bootstrap := by
  have different := triangle.different
  have known := triangle.known candidate (by simp)
  have unlisted := triangle.unlisted walker (by simp) candidate (by simp)
  simp only [List.nodup_cons, List.mem_cons, List.not_mem_nil, not_or] at different
  rcases Host.mem_of_mem_places listed with rfl | rfl
  · grind
  · grind

theorem nodup_places (triangle : Triangle walker introducer candidate) :
    (walker.places candidate).Nodup := by
  have different := triangle.different
  simp only [List.nodup_cons, List.mem_cons, List.not_mem_nil, not_or] at different
  unfold Host.places
  split
  · simp
    grind
  · simp

end Triangle

namespace Host.Settled

variable {introducer walker candidate : Host} {activity : Activity}

/-- The walker verifies whoever is another host at an address that is not listed. -/
theorem welcomes (triangle : Triangle walker introducer candidate) {registry : Registry}
    (blocks : registry.BlocksOnly walker) {responder : Peer}
    (contact : responder.contact = introducer.contact) : registry.Welcomes responder := by
  have known := triangle.known introducer (by simp)
  have unlisted := triangle.unlisted walker (by simp) introducer (by simp)
  exact blocks.welcomes contact triangle.walker_ne_introducer.symm unlisted.2 known.1 known.2

theorem candidates_eq (triangle : Triangle walker introducer candidate) (ownLan : Address) :
    Activity.candidates ownLan walker.wan candidate.lan candidate.wan =
      walker.places candidate := by
  obtain ⟨lan, wan⟩ := triangle.known candidate (by simp)
  have lanKnown : candidate.lan.isEmpty = false := (Address.isEmpty_eq_false_iff _).2 lan
  have wanKnown : candidate.wan.isEmpty = false := (Address.isEmpty_eq_false_iff _).2 wan
  unfold Activity.candidates places
  by_cases same : candidate.wan.ip = walker.wan.ip
  · simp [lanKnown, wanKnown, same]
  · simp [lanKnown, wanKnown, same]

/-- A report of the own WAN address leaves the estimate as it is. -/
theorem learnWan (settled : walker.Settled activity)
    (names : activity.known.wanLog.Names walker.wan) (sender : Address) :
    walker.Settled (activity.learnWan sender walker.wan) := by
  unfold Activity.learnWan
  split
  · exact settled
  · refine ⟨settled.key, settled.configured, settled.lan, ?_⟩
    have more : (activity.known.wanLog.add
        ⟨activity.moment.now, sender, activity.lan, walker.wan⟩).Names walker.wan :=
      names.add rfl
    have estimated := more.estimate?_eq
    rw [if_neg (WanLog.reports_add_ne_nil _ _)] at estimated
    exact congrArg (fun estimate => estimate.getD Address.empty) estimated

theorem discover_eq (settled : walker.Settled activity)
    (triangle : Triangle walker introducer candidate) (responder : Peer) {address : Address}
    (listed : address ∈ walker.places candidate) :
    activity.discover responder address =
      activity.onRegistry (·.discover responder address (some walker.service)) := by
  obtain ⟨known, notLan, notWan, -, -⟩ := triangle.foreign_places listed
  unfold Activity.discover
  rw [settled.lan, settled.wan, settled.service]
  exact if_neg (by simp [known, notLan, notWan])

theorem discoverAll (settled : walker.Settled activity)
    (triangle : Triangle walker introducer candidate)
    (blocks : activity.known.registry.BlocksOnly walker) {found places : List Address}
    (knows : activity.known.registry.Knows walker.service introducer found) {responder : Peer}
    (contact : responder.contact = introducer.contact)
    (listed : ∀ address ∈ places, address ∈ walker.places candidate)
    (different : (found ++ places).Nodup) :
    (places.foldl (fun activity address => activity.discover responder address)
      activity).overlay = activity.overlay ∧
    (places.foldl (fun activity address => activity.discover responder address)
      activity).sent = activity.sent ∧
    (places.foldl (fun activity address => activity.discover responder address)
      activity).known.registry.Knows walker.service introducer (found ++ places) := by
  induction places generalizing activity found with
  | nil =>
      rw [List.append_nil]
      exact ⟨rfl, rfl, knows⟩
  | cons address others ih =>
      have here := listed address (by simp)
      obtain ⟨known, -, -, elsewhere, unlisted⟩ := triangle.foreign_places here
      have new : address ∉ found :=
        fun before => (List.nodup_append.1 different).2.2 address before address (by simp) rfl
      have next := knows.discover contact (welcomes triangle blocks contact)
        ⟨known, blocks.isBlocked_eq unlisted⟩ new elsewhere
      have blocksNext : (activity.known.registry.discover responder address
          (some walker.service)).BlocksOnly walker :=
        blocks.congr (Registry.blockedMembers_discover _ _ _ _)
          (Registry.blockedAddresses_discover _ _ _ _)
      have order : found ++ address :: others = found ++ [address] ++ others := by simp
      rw [List.foldl_cons, settled.discover_eq triangle responder here]
      rw [order] at different ⊢
      have settledNext := settled.onRegistry
        (·.discover responder address (some walker.service))
      exact ih settledNext blocksNext next
        (fun other later => listed other (List.mem_cons_of_mem address later)) different

/-- The walker verifies the introducer, and records the candidate's places. -/
theorem takeResponse_spec (settled : walker.Settled activity)
    (triangle : Triangle walker introducer candidate)
    (names : activity.known.wanLog.Names walker.wan)
    (blocks : activity.known.registry.BlocksOnly walker)
    (nobody : activity.known.registry.verified = ∅)
    (nowhere : activity.known.registry.addresses = ∅) {peer : Peer}
    (connection : ConnectionType) (identifier : UInt16)
    (contact : (peer.reporting introducer.lan introducer.wan).contact = introducer.contact) :
    (activity.takeResponse peer
      (introducer.response walker candidate connection identifier)).overlay = activity.overlay ∧
    (activity.takeResponse peer
      (introducer.response walker candidate connection identifier)).sent = activity.sent ∧
    (activity.takeResponse peer
      (introducer.response walker candidate connection identifier)).known.registry.Knows
        walker.service introducer (walker.places candidate) := by
  have learned := settled.learnWan names peer.address
  have unchanged : (activity.learnWan peer.address walker.wan).known.registry =
      activity.known.registry ∧
      (activity.learnWan peer.address walker.wan).overlay = activity.overlay ∧
      (activity.learnWan peer.address walker.wan).sent = activity.sent := by
    unfold Activity.learnWan
    split
    · exact ⟨rfl, rfl, rfl⟩
    · exact ⟨rfl, rfl, rfl⟩
  have order : activity.takeResponse peer
      (introducer.response walker candidate connection identifier) =
      let verified := (activity.learnWan peer.address walker.wan).verify
        (peer.reporting introducer.lan introducer.wan)
      (Activity.candidates verified.lan verified.wan candidate.lan candidate.wan).foldl
        (fun activity address =>
          activity.discover (peer.reporting introducer.lan introducer.wan) address) verified := rfl
  rw [order]
  generalize activity.learnWan peer.address walker.wan = informed at learned unchanged
  generalize peer.reporting introducer.lan introducer.wan = responder at contact
  obtain ⟨registry, overlay, sent⟩ := unchanged
  rw [← registry] at blocks nobody nowhere
  have member : responder.memberId = introducer.memberId := congrArg Contact.member contact
  have verified : (informed.verify responder).known.registry.Knows walker.service
      introducer [] := by
    have knows := Registry.Knows.verify walker.service nobody nowhere
      (welcomes triangle blocks contact) contact
    rw [← member, ← learned.service] at knows
    rw [← learned.service]
    exact knows
  have settledThen : walker.Settled (informed.verify responder) := learned.onRegistry _
  have blocksThen : (informed.verify responder).known.registry.BlocksOnly walker :=
    blocks.congr (Registry.blockedMembers_verify _ _) (Registry.blockedAddresses_verify _ _)
  obtain ⟨sameOverlay, sameSent, all⟩ := settledThen.discoverAll triangle blocksThen verified
    contact (fun _ listed => listed) triangle.nodup_places
  rw [List.nil_append] at all
  dsimp only
  rw [settledThen.wan, candidates_eq triangle]
  exact ⟨sameOverlay.trans overlay, sameSent.trans sent, all⟩

end Host.Settled

end PeerDiscovery
