import PeerDiscovery.Proofs.Network.Hosts
import PeerDiscovery.Proofs.Overlay.Authentication
import PeerDiscovery.Proofs.Overlay.Reports

/-!
# Honest hosts at work

`Honest` relates what a host knows, and what it has sent in an activity, to the
datagrams that were sent before.  Who is verified rests on received packets; in
a network of honest hosts these packets were written by hosts, so a record
portrays the host that wrote them.  Walking keeps a host honest, and so does
receiving any datagram that is addressed to it.
-/

namespace PeerDiscovery

/-- How many datagrams were sent from an address. -/
def sentBy (history : List Transit) (source : Address) : Nat :=
  history.countP fun transit => transit.source == source

namespace Network

variable (network : Network) (history : List Transit)

/-- Every datagram was written by the host at its source, at a time that the host
has reached. -/
def Written : Prop :=
  ∀ transit ∈ history, ∃ host ∈ network.hosts, transit.source = host.wan ∧
    ∃ time : UInt64, time.toNat ≤ sentBy history host.wan ∧
      network.Letter host time transit.destination transit.data

/-- Whether an address is where a host may look for another one. -/
def Nearby (host : Host) (address : Address) : Prop :=
  ∃ other ∈ network.hosts, other ≠ host ∧
    (address = other.wan ∨ address = other.lan ∨ address = ⟨host.lan.ip, other.wan.port⟩)

/-- Whether a record is one that the host may have of a member. -/
structure Portrays (host : Host) (member : MemberId) (peer : Peer) : Prop where
  keyed : peer.memberId = member
  member : member = host.memberId
  address : peer.address = host.wan
  lan : TellsLan host peer.lan
  wan : TellsWan host peer.wan

/-- No record has a clock beyond what its member has sent. -/
def Timely (registry : Registry) : Prop :=
  registry.Records fun member peer => ∀ other ∈ network.hosts, other.memberId = member →
    peer.clock.toNat ≤ sentBy history other.wan

/-- A host in the middle of an activity, after the datagrams of a history were
sent. -/
structure Honest (host : Host) (activity : Activity) : Prop where
  guarded : Activity.Guarded host.key host.settings (history.map Transit.packet) activity
  key : activity.overlay.key = host.key
  lan : activity.lan = host.lan
  time : activity.overlay.globalTime =
    UInt64.ofNat (sentBy history host.wan + activity.sent.length)
  clocks : network.Timely history activity.known.registry
  addresses : ∀ address ∈ activity.known.registry.addresses, network.Nearby host address
  reports : activity.known.wanLog.Agrees host.lan host.wan
  letters : ∀ datagram ∈ activity.sent, ∃ time : UInt64,
    time.toNat ≤ sentBy history host.wan + activity.sent.length ∧
      network.Letter host time datagram.destination datagram.data

/-- A peer that a host shows of itself. -/
structure Shows (other : Host) (service : ServiceId) (peer : Peer) : Prop where
  inside : other ∈ network.hosts
  member : peer.memberId = other.memberId
  address : peer.address = other.wan
  clock : peer.clock.toNat ≤ sentBy history other.wan
  vouched : Vouched (history.map Transit.packet) service peer.memberId peer

variable {network history}

namespace Written

theorem introduces (written : network.Written history) {packet : Packet}
    (received : packet ∈ history.map Transit.packet) {service : ServiceId} {member : MemberId}
    {lan wan : Address} (introduced : packet.Introduces service member lan wan) :
    ∃ other ∈ network.hosts, packet.source = other.wan ∧ member = other.memberId ∧
      TellsLan other lan ∧ TellsWan other wan := by
  obtain ⟨transit, sent, rfl⟩ := List.mem_map.1 received
  obtain ⟨other, inside, source, time, -, letter⟩ := written transit sent
  obtain ⟨member, lan, wan⟩ := letter.introduces rfl introduced
  exact ⟨other, inside, source, member, lan, wan⟩

theorem portrays (written : network.Written history) {service : ServiceId} {member : MemberId}
    {peer : Peer} (vouched : Vouched (history.map Transit.packet) service member peer) :
    ∃ other ∈ network.hosts, Portrays other member peer := by
  obtain ⟨packet, received, source, lan, wan, introduced⟩ := vouched.seen
  obtain ⟨other, inside, from_, named, -, -⟩ := written.introduces received introduced
  have alone : ∀ host ∈ network.hosts, member = host.memberId → host = other :=
    fun host there same => network.eq_of_memberId there inside (same.symm.trans named)
  refine ⟨other, inside, vouched.keyed, named, source.symm.trans from_, ?_, ?_⟩
  · rcases vouched.lan with vacant | ⟨packet, received, wan, introduced⟩
    · exact .inl vacant
    · obtain ⟨host, there, -, same, told, -⟩ := written.introduces received introduced
      rw [← alone host there same]
      exact told
  · rcases vouched.wan with vacant | ⟨packet, received, lan, introduced⟩
    · exact .inl vacant
    · obtain ⟨host, there, -, same, -, told⟩ := written.introduces received introduced
      rw [← alone host there same]
      exact told

end Written

namespace Timely

variable {registry other : Registry}

theorem sameButMarks (timely : network.Timely history registry)
    (same : Registry.SameButMarks registry other) : network.Timely history other := by
  refine Registry.Records.sameButMarks timely same ?_
  intro member first second unmarked bounded host inside named
  have sameClock : second.clock = first.clock := (congrArg Peer.clock unmarked).symm
  rw [sameClock]
  exact bounded host inside named

theorem toNat_max_le {left right : UInt64} {bound : Nat} (first : left.toNat ≤ bound)
    (second : right.toNat ≤ bound) : (max left right).toNat ≤ bound := by
  rcases UInt64.le_total left right with below | above
  · rw [show max left right = right from if_pos below]
    exact second
  · by_cases below : left ≤ right
    · rw [show max left right = right from if_pos below]
      exact second
    · rw [show max left right = left from if_neg below]
      exact first

theorem updateClock (timely : network.Timely history registry) {host : Host}
    (inside : host ∈ network.hosts) {time : UInt64} (reached : time.toNat ≤ sentBy history host.wan)
    (now : Instant) :
    network.Timely history (registry.updateClock host.memberId time now) := by
  refine Registry.Records.updateClock timely ?_
  intro peer bounded other there named
  cases network.eq_of_memberId there inside named
  exact toNat_max_le (bounded _ inside rfl) reached

theorem verify (timely : network.Timely history registry) {host : Host} {service : ServiceId}
    {peer : Peer} (shows : network.Shows history host service peer) :
    network.Timely history (registry.verify peer) := by
  have bounded : ∀ other ∈ network.hosts, other.memberId = peer.memberId →
      peer.clock.toNat ≤ sentBy history other.wan := by
    intro other there named
    cases network.eq_of_memberId there shows.inside (named.trans shows.member)
    exact shows.clock
  refine Registry.Records.verify timely (fun _ _ => bounded) ?_
  intro known taken found other there named
  have before := timely peer.memberId known found other there named
  rw [registry.screened_eq peer]
  exact toNat_max_le before (bounded other there named)

end Timely

namespace Honest

variable {host other : Host} {activity : Activity}

theorem onRegistry (honest : network.Honest history host activity) {change : Registry → Registry}
    (guarded : Activity.Guarded host.key host.settings (history.map Transit.packet)
      (activity.onRegistry change))
    (clocks : network.Timely history (change activity.known.registry))
    (addresses : ∀ address ∈ (change activity.known.registry).addresses,
      network.Nearby host address) :
    network.Honest history host (activity.onRegistry change) :=
  { honest with guarded, clocks, addresses }

theorem tell (honest : network.Honest history host activity) (notice : Notice) :
    network.Honest history host (activity.tell notice) :=
  { honest with guarded := ⟨honest.guarded.configured, honest.guarded.builtIn,
      honest.guarded.registry⟩ }

theorem noteHeard (honest : network.Honest history host activity) (packet : Packet) :
    network.Honest history host (activity.noteHeard packet) := by
  have same := activity.known.registry.sameButMarks_markHeard packet.source activity.moment.now
  refine honest.onRegistry (honest.guarded.noteHeard packet) (honest.clocks.sameButMarks same) ?_
  rw [same.addresses]
  exact honest.addresses

/-- The one way to send: a time is claimed, and a letter of that time is sent. -/
theorem send (honest : network.Honest history host activity) {destination : Address} {data : Bytes}
    (letter : network.Letter host activity.claimTime.overlay.globalTime destination data) :
    network.Honest history host (activity.claimTime.sendTo destination data) := by
  have same := activity.known.registry.sameButMarks_markSent destination activity.moment.now
  have claimed : activity.claimTime.overlay.globalTime =
      UInt64.ofNat (sentBy history host.wan + (activity.sent.length + 1)) := by
    rw [← Nat.add_assoc, UInt64.ofNat_add, ← honest.time]
    rfl
  have reached : activity.claimTime.overlay.globalTime.toNat ≤
      sentBy history host.wan + (activity.sent.length + 1) := by
    rw [claimed, UInt64.toNat_ofNat']
    exact Nat.mod_le _ _
  have oneMore : (activity.claimTime.sendTo destination data).sent.length =
      activity.sent.length + 1 := by
    rw [Activity.sent_sendTo, List.length_append]
    rfl
  refine
    { guarded := honest.guarded.claimTime.sendTo destination data
      key := honest.key
      lan := honest.lan
      time := ?_
      clocks := honest.clocks.sameButMarks same
      addresses := ?_
      reports := honest.reports
      letters := ?_ }
  · rw [Activity.overlay_sendTo, oneMore]
    exact claimed
  · intro address known
    rw [Activity.registry_sendTo] at known
    exact honest.addresses address (same.addresses ▸ known)
  · rw [oneMore]
    intro datagram posted
    rw [Activity.sent_sendTo] at posted
    rcases List.mem_append.1 posted with before | last
    · obtain ⟨time, early, written⟩ := honest.letters datagram before
      exact ⟨time, by omega, written⟩
    · cases List.mem_singleton.1 last
      exact ⟨_, reached, letter⟩

theorem draft_eq (honest : network.Honest history host activity) {message : MembershipMessage}
    (signs : message ≠ .punctureRequest) :
    activity.claimTime.overlay.draft message.id true =
      host.draft message activity.claimTime.overlay.globalTime :=
  Host.draft_eq (show activity.claimTime.overlay.key = host.key from honest.key)
    honest.guarded.configured signs

theorem unsigned_draft_eq (honest : network.Honest history host activity) :
    activity.claimTime.overlay.draft MembershipMessage.punctureRequest.id false =
      host.draft .punctureRequest activity.claimTime.overlay.globalTime :=
  Host.unsigned_draft_eq
    (show activity.claimTime.overlay.settings = host.settings from honest.guarded.configured)

theorem tellsLan (honest : network.Honest history host activity) : TellsLan host activity.lan :=
  .inr honest.lan

theorem tellsWan (honest : network.Honest history host activity) : TellsWan host activity.wan :=
  honest.reports.names.estimate_cases

theorem walkTo (honest : network.Honest history host activity) (destination : Address) :
    network.Honest history host (activity.walkTo destination) := by
  rw [Activity.walkTo_eq]
  refine honest.send ?_
  rw [honest.draft_eq (by decide)]
  exact .request destination _ honest.tellsLan honest.tellsWan

theorem kept : Activity.KeptByInitiatives (network.Honest history host) where
  walkTo _ destination honest := honest.walkTo destination
  noteBootstrap _ honest :=
    { honest with guarded := ⟨honest.guarded.configured, honest.guarded.builtIn,
        honest.guarded.registry⟩ }
  forgetAddress activity address honest unoccupied := by
    refine honest.onRegistry (Activity.Guarded.kept.forgetAddress activity address honest.guarded
      unoccupied) (Registry.Records.forgetAddress honest.clocks address) ?_
    intro known listed
    exact honest.addresses known
      ((Registry.mem_addresses_forgetAddress _ address known).1 listed).1

theorem hear {Value : Type} {signed : Signed Value}
    (honest : network.Honest history host activity) (inside : other ∈ network.hosts)
    {time : UInt64} (reached : time.toNat ≤ sentBy history other.wan) {packet : Packet}
    (signs : other.Signs time packet signed) :
    network.Honest history host (activity.hear signed) := by
  refine honest.onRegistry (honest.guarded.hear signed) ?_ ?_
  · rw [signs.member, signs.time]
    exact honest.clocks.updateClock inside reached _
  · rw [Registry.addresses_updateClock]
    exact honest.addresses

theorem ne_of_takes (honest : network.Honest history host activity) {service : ServiceId}
    {peer : Peer} (shows : network.Shows history other service peer)
    (taken : activity.known.registry.takes peer) : other ≠ host := by
  rintro rfl
  exact honest.guarded.registry.memberId_ne_of_takes taken shows.member

theorem addresses_verify (honest : network.Honest history host activity) {service : ServiceId}
    {peer : Peer} (shows : network.Shows history other service peer) :
    ∀ address ∈ (activity.known.registry.verify peer).addresses, network.Nearby host address := by
  intro address known
  rw [Registry.mem_addresses_verify] at known
  rcases known with before | ⟨rfl, -, taken⟩
  · exact honest.addresses address before
  · exact ⟨other, shows.inside, honest.ne_of_takes shows taken, .inl shows.address⟩

theorem verify (honest : network.Honest history host activity) {peer : Peer}
    (shows : network.Shows history other host.service peer) :
    network.Honest history host (activity.verify peer) :=
  honest.onRegistry (honest.guarded.verify shows.vouched)
    ((honest.clocks.verify shows).congr (Registry.verified_addServices _ _ _))
    (honest.addresses_verify shows)

theorem discover (honest : network.Honest history host activity) {peer : Peer}
    (shows : network.Shows history other host.service peer)
    (advertises : activity.known.registry.advertises peer.memberId host.service = true)
    {address : Address} (nearby : network.Nearby host address) :
    network.Honest history host (activity.discover peer address) := by
  have guarded := (honest.guarded.discover shows.vouched advertises address).1
  unfold Activity.discover at guarded ⊢
  split at guarded
  · rename_i own
    rw [if_pos own]
    exact honest
  · rename_i foreign
    rw [if_neg foreign]
    have introduced : network.Honest history host (activity.onRegistry
        (·.introduced peer.memberId address (some activity.service))) := by
      refine honest.onRegistry (honest.guarded.onRegistry
        (honest.guarded.registry.introduced _ _ _)) ?_ ?_
      · exact honest.clocks.congr (Registry.verified_introduced _ _ _ _)
      · intro known listed
        rw [Registry.mem_addresses_introduced] at listed
        rcases listed with before | ⟨rfl, -⟩
        · exact honest.addresses known before
        · exact nearby
    refine honest.onRegistry guarded ?_ ?_
    · rw [Registry.discover_eq]
      exact introduced.clocks.verify shows
    · rw [Registry.discover_eq]
      exact introduced.addresses_verify shows

theorem portrays (honest : network.Honest history host activity)
    (written : network.Written history) {member : MemberId} {peer : Peer}
    (stored : activity.known.registry.verified[member]? = some peer) :
    ∃ other ∈ network.hosts, other ≠ host ∧ Portrays other member peer := by
  have admitted := honest.guarded.registry.records member peer stored
  obtain ⟨other, inside, portrays⟩ := written.portrays admitted.toVouched
  refine ⟨other, inside, ?_, portrays⟩
  rintro rfl
  exact admitted.stranger portrays.member

theorem whereabouts_eq (honest : network.Honest history host activity)
    (written : network.Written history) {service : ServiceId} {peer : Peer}
    (shows : network.Shows history other service peer) :
    activity.whereabouts peer = other.wan := by
  unfold Activity.whereabouts
  cases stored : activity.known.registry.verified[peer.memberId]? with
  | none => exact shows.address
  | some record =>
      obtain ⟨host, inside, -, portrays⟩ := honest.portrays written stored
      have same := network.eq_of_memberId inside shows.inside
        (portrays.member.symm.trans shows.member)
      rw [← same]
      exact portrays.address

theorem tellsOf_of_introduction? (honest : network.Honest history host activity)
    (written : network.Written history) {service : ServiceId} {peer : Peer}
    (shows : network.Shows history other service peer) (pick : Nat) :
    network.TellsOf other
      (((activity.introduction? (some peer.memberId) pick).map (·.lan)).getD .empty)
      (((activity.introduction? (some peer.memberId) pick).map (·.wan)).getD .empty) := by
  cases chosen : activity.introduction? (some peer.memberId) pick with
  | none => exact .inl ⟨rfl, rfl⟩
  | some candidate =>
      obtain ⟨differs, member, stored, -⟩ := Activity.introduction?_eq_some chosen
      obtain ⟨introduced, inside, -, portrays⟩ := honest.portrays written stored
      refine .inr ⟨introduced, inside, ?_, portrays.lan, portrays.wan⟩
      rintro rfl
      apply differs
      rw [portrays.keyed, portrays.member, shows.member]

theorem askCandidate (honest : network.Honest history host activity) (walker : Puncture)
    (candidate : Option Peer) :
    network.Honest history host (activity.askCandidate walker candidate) := by
  cases candidate with
  | none => exact honest
  | some candidate =>
      rw [Activity.askCandidate, Activity.requestPuncture_eq]
      refine honest.send ?_
      rw [honest.unsigned_draft_eq]
      exact .punctureRequest _ walker

/-- The response goes to the address that it names. -/
theorem respond (honest : network.Honest history host activity)
    (written : network.Written history) {service : ServiceId} {peer : Peer}
    (shows : network.Shows history other service peer) (identifier : UInt16)
    {introduced : Option Peer}
    (tells : network.TellsOf other ((introduced.map (·.lan)).getD .empty)
      ((introduced.map (·.wan)).getD .empty)) :
    network.Honest history host (activity.respond peer identifier introduced) := by
  rw [Activity.respond_eq, honest.whereabouts_eq written shows]
  refine honest.send ?_
  rw [honest.draft_eq (by decide)]
  exact .response other _ shows.inside shows.address honest.tellsLan honest.tellsWan tells

theorem answerRequest (honest : network.Honest history host activity)
    (written : network.Written history) {peer : Peer} {request : IntroductionRequest}
    (shows : network.Shows history other host.service
      (peer.reporting request.sourceLan request.sourceWan)) (pick : Nat) :
    network.Honest history host (activity.answerRequest peer request pick) := by
  rw [Activity.answerRequest_eq]
  split
  · exact honest.tell _
  · have verified := honest.verify shows
    have tells := verified.tellsOf_of_introduction? written shows pick
    exact (verified.askCandidate _ _).respond written shows request.identifier tells

theorem puncture (honest : network.Honest history host activity) (walker : Puncture) :
    network.Honest history host (activity.puncture walker) := by
  rw [Activity.puncture_eq]
  refine honest.send ?_
  rw [honest.draft_eq (by decide)]
  exact .puncture _ _

theorem learnWan (honest : network.Honest history host activity) (sender : Address) :
    network.Honest history host (activity.learnWan sender host.wan) := by
  have guarded := honest.guarded.learnWan sender host.wan
  unfold Activity.learnWan at guarded ⊢
  split
  · exact honest
  · rename_i foreign
    rw [if_neg foreign] at guarded
    exact
      { honest with
        guarded
        reports := honest.reports.add ⟨honest.lan, rfl⟩ }

theorem nearby_of_mem_candidates (honest : network.Honest history host activity)
    {lan wan : Address} (tells : network.TellsOf host lan wan) {ownWan address : Address}
    (listed : address ∈ Activity.candidates activity.lan ownWan lan wan) :
    network.Nearby host address := by
  have cases := Activity.mem_candidates listed
  rcases tells with ⟨rfl, rfl⟩ | ⟨introduced, inside, differs, toldLan, toldWan⟩
  · rcases cases with ⟨-, known⟩ | ⟨-, known⟩ | ⟨-, known⟩
    · exact absurd rfl known
    · exact absurd rfl known
    · exact absurd rfl known
  · refine ⟨introduced, inside, differs, ?_⟩
    rcases cases with ⟨rfl, known⟩ | ⟨rfl, known⟩ | ⟨rfl, known⟩
    · exact .inr (.inl (toldLan.resolve_left known))
    · exact .inl (toldWan.resolve_left known)
    · rw [honest.lan, toldWan.resolve_left known]
      exact .inr (.inr rfl)

theorem discoverAll (honest : network.Honest history host activity) {peer : Peer}
    (shows : network.Shows history other host.service peer)
    (advertises : activity.known.registry.advertises peer.memberId host.service = true)
    {addresses : List Address} (nearby : ∀ address ∈ addresses, network.Nearby host address) :
    network.Honest history host
      (addresses.foldl (fun activity address => activity.discover peer address) activity) := by
  induction addresses generalizing activity with
  | nil => exact honest
  | cons address others ih =>
      have next := honest.discover shows advertises (nearby address (by simp))
      have still := (honest.guarded.discover shows.vouched advertises address).2
      exact ih next still fun other listed => nearby other (List.mem_cons_of_mem address listed)

theorem takeResponse (honest : network.Honest history host activity) {peer : Peer}
    {response : IntroductionResponse} (routed : response.destination = host.wan)
    (tells : network.TellsOf host response.introLan response.introWan)
    (shows : network.Shows history other host.service
      (peer.reporting response.sourceLan response.sourceWan)) :
    network.Honest history host (activity.takeResponse peer response) := by
  have learned := honest.learnWan peer.address
  rw [← routed] at learned
  have verified := learned.verify shows
  exact verified.discoverAll shows (learned.guarded.advertises_verify _)
    fun _ listed => verified.nearby_of_mem_candidates tells listed

theorem shows_of_signs {Value : Type} {signed : Signed Value} {transit : Transit}
    (sent : transit ∈ history) (inside : other ∈ network.hosts)
    (source : transit.source = other.wan) {time : UInt64}
    (reached : time.toNat ≤ sentBy history other.wan)
    (signs : other.Signs time transit.packet signed) {lan wan : Address} {service : ServiceId}
    (introduces : transit.packet.Introduces service signed.peer.memberId lan wan) :
    network.Shows history other service (signed.peer.reporting lan wan) where
  inside := inside
  member := signs.member
  address := signs.address.trans source
  clock := by
    have sameClock : (signed.peer.reporting lan wan).clock = time := signs.clock
    rw [sameClock]
    exact reached
  vouched := .of_introduces (List.mem_map_of_mem sent) signs.address.symm introduces

/-- Receiving a datagram that is addressed to it keeps a host honest. -/
theorem receive (honest : network.Honest history host activity)
    (written : network.Written history) (member : host ∈ network.hosts) {transit : Transit}
    (sent : transit ∈ history)
    (addressed : host.lan = transit.destination ∨ host.wan = transit.destination) (pick : Nat) :
    network.Honest history host (activity.receive transit.packet pick) := by
  have heard := honest.noteHeard transit.packet
  obtain ⟨other, inside, source, time, reached, letter⟩ := written transit sent
  have service : activity.service = host.service := honest.guarded.service
  have outcome := Activity.outcome_receive honest.guarded.builtIn transit.packet pick
  generalize activity.receive transit.packet pick = next at outcome
  cases outcome with
  | foreign => exact honest
  | unhandled => exact heard
  | rejected messageId cause => exact heard.tell _
  | request signed carried opened =>
      have introduces := Packet.introduces_of_request carried opened
      obtain ⟨signs, -, -⟩ := letter.of_request rfl carried opened
      rw [service] at introduces
      exact (heard.hear inside reached signs).answerRequest written
        (shows_of_signs sent inside source reached signs introduces) pick
  | response signed carried opened =>
      have introduces := Packet.introduces_of_response carried opened
      obtain ⟨signs, -, -, requester, known, routed, named, tells⟩ :=
        letter.of_response rfl carried opened
      rw [service] at introduces
      -- a response arrives at its requester and nowhere else
      have same : host = requester := by
        rw [routed] at addressed
        exact network.eq_of_wan member known addressed
      rw [← same] at named tells
      exact (heard.hear inside reached signs).takeResponse named tells
        (shows_of_signs sent inside source reached signs introduces)
  | puncture signed carried opened =>
      exact heard.hear inside reached (letter.of_puncture rfl carried opened)
  | punctureRequest unsigned => exact heard.puncture _

end Honest

end Network

end PeerDiscovery
