import PeerDiscovery.Proofs.Overlay.Authentication
import PeerDiscovery.Switch

/-!
# Hosts and what they write

A network is a list of hosts that can be told apart: by their members, and by
their WAN addresses, which are nobody else's LAN address either.  Each host runs
one overlay.  `Letter` lists what an honest host writes.  A response goes to the
very address that it names as the requester's, which is what makes the reports
of WAN addresses true.
-/

namespace PeerDiscovery

def Transit.packet (transit : Transit) : Packet := ⟨transit.source, transit.data⟩

namespace Station

def after (station : Station) (activity : Activity) : Station :=
  { station with
    overlay := activity.overlay
    deliveries := station.deliveries ++ activity.deliveries }

/-- What a station puts on its way. -/
def posts (station : Station) (activity : Activity) : List Transit :=
  activity.sent.map fun datagram => ⟨station.wan, datagram.destination, datagram.data⟩

end Station

structure Host where
  key : PrivateKey
  settings : OverlaySettings
  lan : Address
  wan : Address

namespace Host

def memberId (host : Host) : MemberId := host.key.publicKey.memberId

def service (host : Host) : ServiceId := host.settings.service

/-- A message of the host at a global time, but for the payload. -/
def draft (host : Host) (message : MembershipMessage) (time : UInt64) : Packet.Draft :=
  { service := host.service
    messageId := message.id
    globalTime := time
    signer := if message = .punctureRequest then none else some host.key }

/-- An overlay with the key and the settings of the host writes the host's messages. -/
theorem draft_eq {host : Host} {overlay : Overlay} (key : overlay.key = host.key)
    (configured : overlay.settings = host.settings) {message : MembershipMessage}
    (signs : message ≠ .punctureRequest) :
    overlay.draft message.id true = host.draft message overlay.globalTime := by
  simp only [Overlay.draft, draft, service, Overlay.service, if_neg signs, if_true, key,
    configured]

theorem unsigned_draft_eq {host : Host} {overlay : Overlay}
    (configured : overlay.settings = host.settings) :
    overlay.draft MembershipMessage.punctureRequest.id false =
      host.draft .punctureRequest overlay.globalTime := by
  simp only [Overlay.draft, draft, service, Overlay.service, if_true, configured]
  rfl

/-- The host's overlay, loaded on a registry of its own, with its LAN address
estimated. -/
def joined (host : Host) (moment : Moment) : Activity :=
  (Activity.joined host.key host.settings moment).adoptLan host.lan

def station (host : Host) (home : Nat) (moment : Moment) : Station :=
  { overlay := (host.joined moment).overlay
    home
    lan := host.lan
    wan := host.wan
    others := []
    isOpen := true
    walk := none
    deliveries := [] }

theorem overlay_joined (host : Host) (moment : Moment) :
    (host.joined moment).overlay =
      { OverlayPlan.build { settings := host.settings } host.key with lan := host.lan } := by
  unfold joined Activity.adoptLan
  split
  · rename_i same
    rw [← same]
    rfl
  · rfl

theorem registry_joined (host : Host) (moment : Moment) :
    (host.joined moment).known.registry =
      (Activity.joined host.key host.settings moment).known.registry := by
  unfold joined Activity.adoptLan
  split
  · rfl
  · rfl

theorem wanLog_joined (host : Host) (moment : Moment) :
    (host.joined moment).known.wanLog = .empty := by
  unfold joined Activity.adoptLan
  split
  · rfl
  · rfl

structure Apart (first second : Host) : Prop where
  members : first.memberId ≠ second.memberId
  wans : first.wan ≠ second.wan
  lanOfFirst : first.lan ≠ second.wan
  lanOfSecond : first.wan ≠ second.lan

end Host

/-- Hosts that can be told apart, each with a WAN address. -/
structure Network where
  hosts : List Host
  apart : hosts.Pairwise Host.Apart
  routable : ∀ host ∈ hosts, host.wan ≠ .empty

namespace Network

variable (network : Network)

theorem apart_of_ne {first second : Nat} {host other : Host}
    (here : network.hosts[first]? = some host) (there : network.hosts[second]? = some other)
    (differ : first ≠ second) : Host.Apart host other ∨ Host.Apart other host := by
  obtain ⟨firstBound, rfl⟩ := List.getElem?_eq_some_iff.1 here
  obtain ⟨secondBound, rfl⟩ := List.getElem?_eq_some_iff.1 there
  have pairs := List.pairwise_iff_getElem.1 network.apart
  rcases Nat.lt_or_gt_of_ne differ with before | after
  · exact .inl (pairs first second firstBound secondBound before)
  · exact .inr (pairs second first secondBound firstBound after)

theorem eq_of_memberId {host other : Host} (here : host ∈ network.hosts)
    (there : other ∈ network.hosts) (same : host.memberId = other.memberId) : host = other := by
  obtain ⟨first, found⟩ := List.mem_iff_getElem?.1 here
  obtain ⟨second, otherFound⟩ := List.mem_iff_getElem?.1 there
  by_cases differ : first = second
  · subst differ
    exact Option.some.inj (found.symm.trans otherFound)
  · rcases network.apart_of_ne found otherFound differ with apart | apart
    · exact absurd same apart.members
    · exact absurd same.symm apart.members

/-- An address of a host that is a WAN address is its own. -/
theorem eq_of_wan {host other : Host} (here : host ∈ network.hosts)
    (there : other ∈ network.hosts) (same : host.lan = other.wan ∨ host.wan = other.wan) :
    host = other := by
  obtain ⟨first, found⟩ := List.mem_iff_getElem?.1 here
  obtain ⟨second, otherFound⟩ := List.mem_iff_getElem?.1 there
  by_cases differ : first = second
  · subst differ
    exact Option.some.inj (found.symm.trans otherFound)
  · rcases network.apart_of_ne found otherFound differ with apart | apart
    · rcases same with lan | wan
      · exact absurd lan apart.lanOfFirst
      · exact absurd wan apart.wans
    · rcases same with lan | wan
      · exact absurd lan.symm apart.lanOfSecond
      · exact absurd wan.symm apart.wans

/-- Whether an address may be told as the LAN address of a host. -/
def TellsLan (host : Host) (lan : Address) : Prop := lan = .empty ∨ lan = host.lan

/-- Whether an address may be told as the WAN address of a host. -/
def TellsWan (host : Host) (wan : Address) : Prop := wan = .empty ∨ wan = host.wan

/-- The addresses with which a requester is told of somebody else, or of nobody. -/
def TellsOf (requester : Host) (lan wan : Address) : Prop :=
  (lan = .empty ∧ wan = .empty) ∨
    ∃ other ∈ network.hosts, other ≠ requester ∧ TellsLan other lan ∧ TellsWan other wan

/-- What an honest host writes, with the destination it sends it to. -/
inductive Letter (host : Host) (time : UInt64) : Address → Bytes → Prop where
  | request (destination : Address) (request : IntroductionRequest) :
      TellsLan host request.sourceLan → TellsWan host request.sourceWan →
      Letter host time destination
        ((host.draft .introductionRequest time).frame request.encode)
  | response (requester : Host) (response : IntroductionResponse) :
      requester ∈ network.hosts → response.destination = requester.wan →
      TellsLan host response.sourceLan → TellsWan host response.sourceWan →
      network.TellsOf requester response.introLan response.introWan →
      Letter host time requester.wan
        ((host.draft .introductionResponse time).frame response.encode)
  | puncture (destination : Address) (puncture : Puncture) :
      Letter host time destination ((host.draft .puncture time).frame puncture.encode)
  | punctureRequest (destination : Address) (walker : Puncture) :
      Letter host time destination ((host.draft .punctureRequest time).frame walker.encode)

end Network

/-- The packet was written by a host at a global time, and its signer is that host. -/
structure Host.Signs {Value : Type} (host : Host) (time : UInt64) (packet : Packet)
    (signed : Signed Value) : Prop where
  member : signed.peer.memberId = host.memberId
  address : signed.peer.address = packet.source
  clock : signed.peer.clock = time
  time : signed.globalTime = time

namespace Host

variable {host : Host} {time : UInt64} {packet : Packet} {content : Bytes}
  {message carried : MembershipMessage} {service : ServiceId}

theorem eq_of_carries (whole : packet.data = (host.draft message time).frame content)
    (carries : packet.Carries service carried) : message = carried := by
  have same := ((Packet.Draft.carries_frame_iff whole).1 carries).2
  have named : MembershipMessage.ofId? message.id = some carried :=
    MembershipMessage.ofId?_eq_some_iff.2 same
  rw [MembershipMessage.ofId?_id] at named
  exact Option.some.inj named

theorem signs_of_openSigned {Value : Type} {format : Format Value} {now : Instant}
    {signed : Signed Value} (signs : message ≠ .punctureRequest)
    (whole : packet.data = (host.draft message time).frame content)
    (opened : packet.openSigned format now = .ok signed) :
    host.Signs time packet signed ∧ ∃ rest, format.decode content = .ok (signed.payload, rest) := by
  have signer : (host.draft message time).signer = some host.key := if_neg signs
  obtain ⟨-, payload, rest, decoded, rfl⟩ :=
    (Packet.Draft.openSigned_frame_iff signer whole).1 opened
  refine ⟨⟨rfl, rfl, ?_, rfl⟩, rest, decoded⟩
  have above : (0 : UInt64) ≤ time := UInt64.zero_le
  have greatest : max 0 time = time := if_pos above
  exact greatest

end Host

namespace Network.Letter

variable {network : Network} {host : Host} {time : UInt64} {destination : Address}
  {data : Bytes} {packet : Packet} {service : ServiceId} {now : Instant}

theorem of_request (letter : network.Letter host time destination data)
    (whole : packet.data = data) (carries : packet.Carries service .introductionRequest)
    {signed : Signed IntroductionRequest}
    (opened : packet.openSigned IntroductionRequest.format now = .ok signed) :
    host.Signs time packet signed ∧ TellsLan host signed.payload.sourceLan ∧
      TellsWan host signed.payload.sourceWan := by
  cases letter with
  | request _ request lan wan =>
      obtain ⟨signs, rest, decoded⟩ := Host.signs_of_openSigned (by decide) whole opened
      have same : (signed.payload, rest) = (request, []) :=
        Except.ok.inj (decoded.symm.trans request.decode_encode)
      cases congrArg Prod.fst same
      exact ⟨signs, lan, wan⟩
  | response => cases Host.eq_of_carries whole carries
  | puncture => cases Host.eq_of_carries whole carries
  | punctureRequest => cases Host.eq_of_carries whole carries

theorem of_response (letter : network.Letter host time destination data)
    (whole : packet.data = data) (carries : packet.Carries service .introductionResponse)
    {signed : Signed IntroductionResponse}
    (opened : packet.openSigned IntroductionResponse.format now = .ok signed) :
    host.Signs time packet signed ∧ TellsLan host signed.payload.sourceLan ∧
      TellsWan host signed.payload.sourceWan ∧
      ∃ requester ∈ network.hosts, destination = requester.wan ∧
        signed.payload.destination = requester.wan ∧
        network.TellsOf requester signed.payload.introLan signed.payload.introWan := by
  cases letter with
  | request => cases Host.eq_of_carries whole carries
  | response requester response member routed lan wan introduced =>
      obtain ⟨signs, rest, decoded⟩ := Host.signs_of_openSigned (by decide) whole opened
      have same : (signed.payload, rest) = (response, []) :=
        Except.ok.inj (decoded.symm.trans response.decode_encode)
      cases congrArg Prod.fst same
      exact ⟨signs, lan, wan, requester, member, rfl, routed, introduced⟩
  | puncture => cases Host.eq_of_carries whole carries
  | punctureRequest => cases Host.eq_of_carries whole carries

theorem of_puncture (letter : network.Letter host time destination data)
    (whole : packet.data = data) (carries : packet.Carries service .puncture)
    {signed : Signed Puncture} (opened : packet.openSigned Puncture.format now = .ok signed) :
    host.Signs time packet signed := by
  cases letter with
  | request => cases Host.eq_of_carries whole carries
  | response => cases Host.eq_of_carries whole carries
  | puncture => exact (Host.signs_of_openSigned (by decide) whole opened).1
  | punctureRequest => cases Host.eq_of_carries whole carries

theorem introduces (letter : network.Letter host time destination data)
    (whole : packet.data = data) {member : MemberId} {lan wan : Address}
    (introduced : packet.Introduces service member lan wan) :
    member = host.memberId ∧ TellsLan host lan ∧ TellsWan host wan := by
  cases introduced with
  | request parts request rest genuine written front decoded =>
      have opened : packet.openSigned IntroductionRequest.format 0 = .ok _ :=
        Packet.openSigned_eq_ok_iff.2 ⟨parts, request, rest, genuine, written, decoded, rfl⟩
      have carries := Packet.Parts.carries written front
      obtain ⟨signs, lan, wan⟩ := letter.of_request whole carries opened
      exact ⟨signs.member, lan, wan⟩
  | response parts response rest genuine written front decoded =>
      have opened : packet.openSigned IntroductionResponse.format 0 = .ok _ :=
        Packet.openSigned_eq_ok_iff.2 ⟨parts, response, rest, genuine, written, decoded, rfl⟩
      have carries := Packet.Parts.carries written front
      obtain ⟨signs, lan, wan, -⟩ := letter.of_response whole carries opened
      exact ⟨signs.member, lan, wan⟩

end Network.Letter

end PeerDiscovery
