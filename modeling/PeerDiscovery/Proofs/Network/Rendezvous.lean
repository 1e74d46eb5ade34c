import PeerDiscovery.Proofs.Network.Exchange
import PeerDiscovery.Proofs.Registry.Consistency

/-!
# An introduction from end to end

Three hosts share a switch.  The introducer knows the candidate and nobody else,
and the walker knows nobody.  When the walker walks to the introducer, exactly
four datagrams are exchanged; afterwards walker and introducer have verified
each other, and the walker knows where to find the candidate.
-/

namespace PeerDiscovery

namespace Switch

theorem pump_of_empty {switch : Switch} (empty : switch.queue = []) (now : Instant)
    (pick limit : Nat) : switch.pump now pick limit = ([], switch) := by
  cases limit with
  | zero => rfl
  | succ limit =>
      have nothing : switch.deliverNext now pick = none := by
        unfold deliverNext
        rw [empty]
      rw [pump, nothing]

theorem deliverNext_of_owner? {switch : Switch} {transit : Transit} {rest : List Transit}
    {now : Instant} {index : Nat} (front : switch.queue = transit :: rest)
    (owner : { switch with queue := rest }.owner? transit.destination = some index)
    (pick : Nat) :
    switch.deliverNext now pick =
      some (transit, { switch with queue := rest }.act index now
        (·.receive transit.packet pick)) := by
  rw [deliverNext, front]
  dsimp only
  rw [owner]
  rfl

theorem pump_succ {switch next : Switch} {transit : Transit} {now : Instant} {pick : Nat}
    (delivered : switch.deliverNext now pick = some (transit, next)) (limit : Nat) :
    switch.pump now pick (limit + 1) =
      (transit :: (next.pump now pick limit).1, (next.pump now pick limit).2) := by
  rw [pump, delivered]

def trio (first second third : Station × Neighbourhood) (queue : List Transit)
    (notices : List Notice) : Switch :=
  { stations := [first.1, second.1, third.1]
    neighbourhoods := [first.2, second.2, third.2]
    queue
    notices }

section Trio

variable {first second third : Station × Neighbourhood} {queue : List Transit}
  {notices : List Notice} {now : Instant} {activity : Activity}

theorem act_first (work : Activity → Activity) (home : first.1.home = 0)
    (worked : work (.start first.1.overlay first.2 ⟨now, first.1.isOpen⟩) = activity) :
    (trio first second third queue notices).act 0 now work =
      trio (first.1.after activity, activity.known) second third
        (queue ++ first.1.posts activity) (notices ++ activity.notices) := by
  obtain ⟨⟨overlay, _, lan, wan, others, isOpen, walk, deliveries⟩, known⟩ := first
  dsimp only at home
  subst home
  rw [← worked]
  rfl

theorem act_second (work : Activity → Activity) (home : second.1.home = 1)
    (worked : work (.start second.1.overlay second.2 ⟨now, second.1.isOpen⟩) = activity) :
    (trio first second third queue notices).act 1 now work =
      trio first (second.1.after activity, activity.known) third
        (queue ++ second.1.posts activity) (notices ++ activity.notices) := by
  obtain ⟨⟨overlay, _, lan, wan, others, isOpen, walk, deliveries⟩, known⟩ := second
  dsimp only at home
  subst home
  rw [← worked]
  rfl

theorem act_third (work : Activity → Activity) (home : third.1.home = 2)
    (worked : work (.start third.1.overlay third.2 ⟨now, third.1.isOpen⟩) = activity) :
    (trio first second third queue notices).act 2 now work =
      trio first second (third.1.after activity, activity.known)
        (queue ++ third.1.posts activity) (notices ++ activity.notices) := by
  obtain ⟨⟨overlay, _, lan, wan, others, isOpen, walk, deliveries⟩, known⟩ := third
  dsimp only at home
  subst home
  rw [← worked]
  rfl

variable {address : Address}

theorem owner?_first (owns : first.1.owns address = true) :
    (trio first second third queue notices).owner? address = some 0 := by
  simp [owner?, trio, List.findIdx?_cons, owns]

theorem owner?_second (foreign : first.1.owns address = false)
    (owns : second.1.owns address = true) :
    (trio first second third queue notices).owner? address = some 1 := by
  simp [owner?, trio, List.findIdx?_cons, owns, foreign]

theorem owner?_third (foreign : first.1.owns address = false)
    (foreignToo : second.1.owns address = false) (owns : third.1.owns address = true) :
    (trio first second third queue notices).owner? address = some 2 := by
  simp [owner?, trio, List.findIdx?_cons, owns, foreign, foreignToo]

variable {transit : Transit} {pick : Nat}

theorem deliverNext_trio {index : Nat}
    (owner : (trio first second third queue notices).owner? transit.destination = some index)
    (pick : Nat) :
    (trio first second third (transit :: queue) notices).deliverNext now pick =
      some (transit, (trio first second third queue notices).act index now
        (·.receive transit.packet pick)) :=
  deliverNext_of_owner? rfl owner pick

theorem deliverNext_first (first : Station × Neighbourhood)
    (owns : first.1.owns transit.destination = true) (home : first.1.home = 0)
    (received : (Activity.start first.1.overlay first.2 ⟨now, first.1.isOpen⟩).receive
      transit.packet pick = activity) :
    (trio first second third (transit :: queue) notices).deliverNext now pick =
      some (transit, trio (first.1.after activity, activity.known) second third
        (queue ++ first.1.posts activity) (notices ++ activity.notices)) := by
  rw [deliverNext_trio (owner?_first owns), act_first (·.receive transit.packet pick) home received]

theorem deliverNext_second (foreign : first.1.owns transit.destination = false)
    (owns : second.1.owns transit.destination = true) (home : second.1.home = 1)
    (received : (Activity.start second.1.overlay second.2 ⟨now, second.1.isOpen⟩).receive
      transit.packet pick = activity) :
    (trio first second third (transit :: queue) notices).deliverNext now pick =
      some (transit, trio first (second.1.after activity, activity.known) third
        (queue ++ second.1.posts activity) (notices ++ activity.notices)) := by
  rw [deliverNext_trio (owner?_second foreign owns),
    act_second (·.receive transit.packet pick) home received]

theorem deliverNext_third (second : Station × Neighbourhood)
    (foreign : first.1.owns transit.destination = false)
    (foreignToo : second.1.owns transit.destination = false)
    (owns : third.1.owns transit.destination = true) (home : third.1.home = 2)
    (received : (Activity.start third.1.overlay third.2 ⟨now, third.1.isOpen⟩).receive
      transit.packet pick = activity) :
    (trio first second third (transit :: queue) notices).deliverNext now pick =
      some (transit, trio first second (third.1.after activity, activity.known)
        (queue ++ third.1.posts activity) (notices ++ activity.notices)) := by
  rw [deliverNext_trio (owner?_third foreign foreignToo owns),
    act_third (·.receive transit.packet pick) home received]

/-- The second station answers the first one with one datagram and asks the third one
with another, which makes the third one address the first one. -/
theorem pump_trio (first : Station × Neighbourhood) {question demand answer greeting : Transit}
    {answered demanded taken greeted : Activity}
    (homes : first.1.home = 0 ∧ second.1.home = 1 ∧ third.1.home = 2)
    (toSecond : first.1.owns question.destination = false ∧
      second.1.owns question.destination = true)
    (toThird : first.1.owns demand.destination = false ∧
      second.1.owns demand.destination = false ∧ third.1.owns demand.destination = true)
    (toFirst : first.1.owns answer.destination = true ∧
      first.1.owns greeting.destination = true)
    (answers : (Activity.start second.1.overlay second.2 ⟨now, second.1.isOpen⟩).receive
      question.packet pick = answered)
    (answeredPosts : second.1.posts answered = [demand, answer])
    (demands : (Activity.start third.1.overlay third.2 ⟨now, third.1.isOpen⟩).receive
      demand.packet pick = demanded)
    (demandedPosts : third.1.posts demanded = [greeting])
    (takes : (Activity.start first.1.overlay first.2 ⟨now, first.1.isOpen⟩).receive
      answer.packet pick = taken)
    (takenPosts : first.1.posts taken = [])
    (greets : (Activity.start taken.overlay taken.known ⟨now, first.1.isOpen⟩).receive
      greeting.packet pick = greeted)
    (greetedPosts : first.1.posts greeted = []) (notices : List Notice) (limit : Nat) :
    (trio first second third [question] notices).pump now pick (limit + 4) =
      ([question, demand, answer, greeting],
        trio ((first.1.after taken).after greeted, greeted.known)
          (second.1.after answered, answered.known) (third.1.after demanded, demanded.known) []
          (notices ++ answered.notices ++ demanded.notices ++ taken.notices ++
            greeted.notices)) := by
  obtain ⟨firstHome, secondHome, thirdHome⟩ := homes
  obtain ⟨notFirst, notSecond, thirdOwns⟩ := toThird
  have unowned : (second.1.after answered).owns demand.destination = false := notSecond
  have owned : (first.1.after taken).owns greeting.destination = true := toFirst.2
  have silent : (first.1.after taken).posts greeted = [] := greetedPosts
  rw [pump_succ (deliverNext_second toSecond.1 toSecond.2 secondHome answers), answeredPosts,
    List.nil_append,
    pump_succ (deliverNext_third (second.1.after answered, answered.known) notFirst unowned
      thirdOwns thirdHome demands), demandedPosts,
    List.singleton_append,
    pump_succ (deliverNext_first first toFirst.1 firstHome takes), takenPosts, List.append_nil,
    pump_succ (deliverNext_first (first.1.after taken, taken.known) owned firstHome greets),
    silent, List.append_nil, pump_of_empty rfl]

end Trio

end Switch

namespace Host

/-- The station is at the place of a host and has the host's addresses. -/
structure Sits (host : Host) (home : Nat) (station : Station) : Prop where
  home : station.home = home
  lan : station.lan = host.lan
  wan : station.wan = host.wan
  others : station.others = []

/-- The overlay is the host's, has been loaded, and knows its own addresses. -/
structure Runs (host : Host) (overlay : Overlay) (known : Neighbourhood) : Prop where
  key : overlay.key = host.key
  configured : overlay.settings = host.settings
  lan : overlay.lan = host.lan
  names : known.wanLog.Names host.wan
  reported : known.wanLog.reports ≠ []
  blocks : known.registry.BlocksOnly host

theorem Sits.after {host : Host} {home : Nat} {station : Station} (sits : host.Sits home station)
    (activity : Activity) : host.Sits home (station.after activity) :=
  ⟨sits.home, sits.lan, sits.wan, sits.others⟩

theorem Sits.owns_iff {host : Host} {home : Nat} {station : Station}
    (sits : host.Sits home station) {address : Address} (known : address ≠ .empty) :
    station.owns address = true ↔ address = host.lan ∨ address = host.wan := by
  unfold Station.owns
  rw [sits.lan, sits.wan, sits.others, (Address.isEmpty_eq_false_iff address).2 known]
  simp

theorem Sits.owns_eq_false {host : Host} {home : Nat} {station : Station}
    (sits : host.Sits home station) {address : Address} (known : address ≠ .empty)
    (foreign : ¬(address = host.lan ∨ address = host.wan)) : station.owns address = false := by
  rw [← Bool.not_eq_true, sits.owns_iff known]
  exact foreign

theorem Sits.posts_eq {host : Host} {home : Nat} {station : Station}
    (sits : host.Sits home station) (activity : Activity) :
    station.posts activity =
      activity.sent.map fun datagram => ⟨host.wan, datagram.destination, datagram.data⟩ := by
  unfold Station.posts
  rw [sits.wan]

theorem Runs.settled {host : Host} {overlay : Overlay} {known : Neighbourhood}
    (runs : host.Runs overlay known) (moment : Moment) :
    host.Settled (.start overlay known moment) :=
  .of_known runs.key runs.configured runs.lan runs.names runs.reported moment

end Host

/-- Where the candidate sends the puncture: behind its own router to the walker's LAN
address, else to its WAN address. -/
def Host.target (walker candidate : Host) : Address :=
  if walker.wan.ip = candidate.wan.ip then walker.lan else walker.wan

/-- What the datagrams of an introduction depend on besides the three hosts: their
global times, and how they are connected. -/
structure Occasion where
  walkerTime : UInt64
  introducerTime : UInt64
  candidateTime : UInt64
  walkerConnection : ConnectionType
  introducerConnection : ConnectionType

namespace Occasion

variable (occasion : Occasion) (walker introducer candidate : Host)

def before (first second third : Station × Neighbourhood) : Occasion :=
  { walkerTime := first.1.overlay.globalTime
    introducerTime := second.1.overlay.globalTime
    candidateTime := third.1.overlay.globalTime
    walkerConnection := first.2.wanLog.connection
    introducerConnection := second.2.wanLog.connection }

/-- The identifier of the request, which all four messages carry. -/
def identifier : UInt16 := IntroductionRequest.identifierAt (occasion.walkerTime + 1)

def request : Transit :=
  { source := walker.wan
    destination := introducer.wan
    data := (walker.draft .introductionRequest (occasion.walkerTime + 1)).frame
      (walker.request introducer.wan occasion.walkerConnection occasion.identifier).encode }

def punctureRequest : Transit :=
  { source := introducer.wan
    destination := candidate.wan
    data := (introducer.draft .punctureRequest (occasion.introducerTime + 1)).frame
      (walker.puncture occasion.identifier).encode }

def response : Transit :=
  { source := introducer.wan
    destination := walker.wan
    data := (introducer.draft .introductionResponse (occasion.introducerTime + 1 + 1)).frame
      (introducer.response walker candidate occasion.introducerConnection
        occasion.identifier).encode }

def puncture : Transit :=
  { source := candidate.wan
    destination := walker.target candidate
    data := (candidate.draft .puncture (occasion.candidateTime + 1)).frame
      (candidate.puncture occasion.identifier).encode }

/-- The four messages, in the order in which they are delivered. -/
def messages : List Transit :=
  [occasion.request walker introducer, occasion.punctureRequest walker introducer candidate,
    occasion.response walker introducer candidate, occasion.puncture walker candidate]

end Occasion

/-- Three stations at which hosts are about to meet: the introducer knows the
candidate only, and the walker nobody.  The signatures of the three messages that
will be signed verify. -/
structure Rendezvous (walker introducer candidate : Host)
    (first second third : Station × Neighbourhood) : Prop where
  triangle : Triangle walker introducer candidate
  firstSits : walker.Sits 0 first.1
  secondSits : introducer.Sits 1 second.1
  thirdSits : candidate.Sits 2 third.1
  walkerRuns : walker.Runs first.1.overlay first.2
  introducerRuns : introducer.Runs second.1.overlay second.2
  candidateRuns : candidate.Runs third.1.overlay third.2
  nobody : first.2.registry.verified = ∅
  nowhere : first.2.registry.addresses = ∅
  coherent : second.2.registry.Coherent
  onlyPeer : (second.2.registry.peersFor introducer.service).map (fun entry => entry.2.contact) =
    [candidate.contact]
  room : ∀ limit, introducer.settings.maxPeers = some limit → 2 ≤ limit
  requestVouched : walker.Vouches .introductionRequest (first.1.overlay.globalTime + 1)
    (walker.request introducer.wan first.2.wanLog.connection
      (IntroductionRequest.identifierAt (first.1.overlay.globalTime + 1))).encode
  responseVouched : introducer.Vouches .introductionResponse
    (second.1.overlay.globalTime + 1 + 1)
    (introducer.response walker candidate second.2.wanLog.connection
      (IntroductionRequest.identifierAt (first.1.overlay.globalTime + 1))).encode
  punctureVouched : candidate.Vouches .puncture (third.1.overlay.globalTime + 1)
    (candidate.puncture
      (IntroductionRequest.identifierAt (first.1.overlay.globalTime + 1))).encode

/-- What has happened when all datagrams of an introduction are delivered. -/
structure Introduced (walker introducer candidate : Host) (introducers candidates : Registry)
    (messages : List Transit) (exchange : List Transit × Switch) : Prop where
  transits : exchange.1 = messages
  queue : exchange.2.queue = []
  /-- The walker has verified the introducer and nobody else, and may walk to where the
  introducer said the candidate is. -/
  walkerKnows : ∃ known, exchange.2.neighbourhoods[0]? = some known ∧
    known.registry.Knows walker.service introducer (walker.places candidate) ∧
    ∀ address, address ∈ known.registry.walkable (some walker.service) ↔
      address ∈ walker.places candidate
  introducerKnows : ∃ known, exchange.2.neighbourhoods[1]? = some known ∧
    (∀ member, known.registry.contact? member =
      if walker.memberId = member then some walker.contact else introducers.contact? member) ∧
    known.registry.advertises walker.memberId introducer.service = true
  candidateKnows : ∃ known, exchange.2.neighbourhoods[2]? = some known ∧
    candidates.SameContacts known.registry

theorem Registry.Coherent.lone {registry : Registry} (coherent : registry.Coherent)
    {service : ServiceId} {host : Host}
    (onlyPeer : (registry.peersFor service).map (fun entry => entry.2.contact) =
      [host.contact]) : registry.Lone service host := by
  have named : ∀ (member : MemberId) (peer : Peer), (member, peer) ∈ registry.peersFor service →
      member = host.memberId ∧ peer.contact = host.contact := by
    intro member peer listed
    have contact : peer.contact ∈ (registry.peersFor service).map fun entry => entry.2.contact :=
      List.mem_map.2 ⟨(member, peer), listed, rfl⟩
    rw [onlyPeer, List.mem_singleton] at contact
    have own : peer.memberId = member :=
      coherent.keyed member peer (registry.mem_peersFor.1 listed).1
    have same : peer.memberId = host.memberId := congrArg Contact.member contact
    exact ⟨own.symm.trans same, contact⟩
  obtain ⟨⟨member, peer⟩, listed⟩ : ∃ entry, entry ∈ registry.peersFor service := by
    cases peers : registry.peersFor service with
    | nil =>
        rw [peers] at onlyPeer
        cases onlyPeer
    | cons entry others => exact ⟨entry, List.mem_cons_self⟩
  obtain ⟨rfl, contact⟩ := named member peer listed
  obtain ⟨stored, advertises⟩ := registry.mem_peersFor.1 listed
  exact
    { keyed := coherent.keyed
      stored := contact?_eq_some_iff.2 ⟨peer, stored, contact⟩
      advertises
      alone := fun other record found offers =>
        (named other record (registry.mem_peersFor.2 ⟨found, offers⟩)).1 }

theorem Host.contact_signer (host : Host) {packet : Packet} (source : packet.source = host.wan)
    (time : UInt64) (now : Instant) :
    ((packet.signer host.key.publicKey time now).reporting host.lan host.wan).contact =
      host.contact :=
  Contact.ext rfl source rfl rfl

namespace Host.Runs

variable {host walker introducer candidate : Host} {overlay : Overlay} {known : Neighbourhood}

theorem service (runs : host.Runs overlay known) (moment : Moment) :
    (Activity.start overlay known moment).service = host.service :=
  congrArg OverlaySettings.service runs.configured

/-- The walker sends its request, and is as before but for its clock. -/
theorem walkTo_spec (runs : host.Runs overlay known) (moment : Moment) (destination : Address) :
    ((Activity.start overlay known moment).walkTo destination).sent =
        [⟨destination, (host.draft .introductionRequest (overlay.globalTime + 1)).frame
          (host.request destination known.wanLog.connection
            (IntroductionRequest.identifierAt (overlay.globalTime + 1))).encode⟩] ∧
      host.Runs ((Activity.start overlay known moment).walkTo destination).overlay
        ((Activity.start overlay known moment).walkTo destination).known ∧
      known.registry.SameContacts
        ((Activity.start overlay known moment).walkTo destination).known.registry := by
  have walked := (runs.settled moment).walkTo_eq destination
  have same : known.registry.SameContacts
      ((Activity.start overlay known moment).walkTo destination).known.registry := by
    rw [walked]
    exact (Activity.start overlay known moment).sameContacts_send _ _
  refine ⟨?_, ⟨?_, ?_, ?_, ?_, ?_, ?_⟩, same⟩
  · rw [walked]
    rfl
  · rw [walked]
    exact runs.key
  · rw [walked]
    exact runs.configured
  · rw [walked]
    exact runs.lan
  · rw [walked]
    exact runs.names
  · rw [walked]
    exact runs.reported
  · exact runs.blocks.congr same.blockedMembers same.blockedAddresses

/-- Before a received message is handled, nothing has changed but clocks and marks. -/
theorem hear (runs : host.Runs overlay known) {moment : Moment} {packet : Packet} {Value : Type}
    {signed : Signed Value} {activity : Activity}
    (heard : ((Activity.start overlay known moment).noteHeard packet).hear signed = activity) :
    host.Settled activity ∧ known.registry.SameContacts activity.known.registry ∧
      activity.overlay = overlay ∧ activity.sent = [] ∧
      activity.known.wanLog = known.wanLog := by
  have marked := (runs.settled moment).onRegistry (·.markHeard packet.source moment.now)
  have settled := marked.onRegistry
    (·.updateClock signed.peer.memberId signed.globalTime moment.now)
  rw [← heard]
  exact ⟨settled, Activity.sameContacts_hear (.start overlay known moment) packet signed, rfl, rfl,
    rfl⟩

/-- The introducer asks the candidate, responds, and has verified the walker. -/
theorem receive_request_spec (runs : introducer.Runs overlay known)
    (triangle : Triangle walker introducer candidate)
    (lone : known.registry.Lone introducer.service candidate)
    (room : ∀ limit, introducer.settings.maxPeers = some limit → 2 ≤ limit) {packet : Packet}
    (source : packet.source = walker.wan) {time : UInt64} {connection : ConnectionType}
    {identifier : UInt16}
    (vouched : walker.Vouches .introductionRequest time
      (walker.request introducer.wan connection identifier).encode)
    (whole : packet.data = (walker.draft .introductionRequest time).frame
      (walker.request introducer.wan connection identifier).encode)
    (moment : Moment) (pick : Nat) :
    ((Activity.start overlay known moment).receive packet pick).sent =
        [⟨candidate.wan, (introducer.draft .punctureRequest (overlay.globalTime + 1)).frame
            (walker.puncture identifier).encode⟩,
          ⟨walker.wan, (introducer.draft .introductionResponse (overlay.globalTime + 1 + 1)).frame
            (introducer.response walker candidate known.wanLog.connection identifier).encode⟩] ∧
      (∀ member,
        ((Activity.start overlay known moment).receive packet pick).known.registry.contact?
          member = if walker.memberId = member then some walker.contact
            else known.registry.contact? member) ∧
      ((Activity.start overlay known moment).receive packet pick).known.registry.advertises
        walker.memberId introducer.service = true := by
  have service : (Activity.start overlay known moment).service = walker.service :=
    (runs.service moment).trans triangle.introducerService
  rw [Activity.receive_request vouched whole service pick]
  generalize heard : ((Activity.start overlay known moment).noteHeard packet).hear _ = activity
  obtain ⟨settled, same, sameOverlay, silent, sameLog⟩ := runs.hear heard
  have contact := walker.contact_signer source time (Activity.start overlay known moment).moment.now
  generalize packet.signer walker.key.publicKey time
    (Activity.start overlay known moment).moment.now = peer at contact
  have wanted := triangle.known walker (by simp)
  have unlisted := triangle.unlisted introducer (by simp) walker (by simp)
  have welcomes : activity.known.registry.Welcomes (peer.reporting walker.lan walker.wan) :=
    (runs.blocks.congr same.blockedMembers same.blockedAddresses).welcomes contact
      triangle.walker_ne_introducer unlisted.2 wanted.1 wanted.2
  have loneThen := lone.sameContacts same
  obtain ⟨sent, sameThen⟩ := settled.answerRequest_spec loneThen
    (walker.request introducer.wan connection identifier) contact welcomes
    triangle.walker_ne_candidate room pick
  rw [sent, silent, sameOverlay, sameLog]
  refine ⟨rfl, ?_, ?_⟩
  · intro member
    have stored := welcomes.contact?_verify (fun record found => loneThen.keyed _ record found)
      member
    rw [show (peer.reporting walker.lan walker.wan).memberId = walker.memberId from
      congrArg Contact.member contact, contact, same.contacts] at stored
    rw [sameThen.contacts]
    exact stored
  · rw [Registry.advertises_congr sameThen.services, Registry.advertises_addServices]
    exact .inr ⟨rfl, List.mem_singleton_self _⟩

theorem receive_punctureRequest_spec (runs : candidate.Runs overlay known)
    (triangle : Triangle walker introducer candidate) {packet : Packet} {time : UInt64}
    {identifier : UInt16}
    (whole : packet.data = (introducer.draft .punctureRequest time).frame
      (walker.puncture identifier).encode) (moment : Moment) (pick : Nat) :
    ((Activity.start overlay known moment).receive packet pick).sent =
        [⟨walker.target candidate, (candidate.draft .puncture (overlay.globalTime + 1)).frame
          (candidate.puncture identifier).encode⟩] ∧
      known.registry.SameContacts
        ((Activity.start overlay known moment).receive packet pick).known.registry := by
  have service : (Activity.start overlay known moment).service = introducer.service :=
    (runs.service moment).trans
      (triangle.candidateService.trans triangle.introducerService.symm)
  have settled : candidate.Settled ((Activity.start overlay known moment).noteHeard packet) :=
    (runs.settled moment).onRegistry _
  have heard : known.registry.SameContacts
      ((Activity.start overlay known moment).noteHeard packet).known.registry :=
    .of_sameButMarks (Registry.sameButMarks_markHeard _ _ _)
  rw [Activity.receive_punctureRequest whole service pick, settled.puncture_eq]
  exact ⟨rfl, heard.trans (Activity.sameContacts_send _ _ _)⟩

/-- The walker verifies the introducer, and learns where the candidate is. -/
theorem receive_response_spec (runs : walker.Runs overlay known)
    (triangle : Triangle walker introducer candidate)
    (nobody : known.registry.verified = ∅) (nowhere : known.registry.addresses = ∅)
    {packet : Packet} (source : packet.source = introducer.wan) {time : UInt64}
    {connection : ConnectionType} {identifier : UInt16}
    (vouched : introducer.Vouches .introductionResponse time
      (introducer.response walker candidate connection identifier).encode)
    (whole : packet.data = (introducer.draft .introductionResponse time).frame
      (introducer.response walker candidate connection identifier).encode)
    (moment : Moment) (pick : Nat) :
    ((Activity.start overlay known moment).receive packet pick).overlay = overlay ∧
      ((Activity.start overlay known moment).receive packet pick).sent = [] ∧
      ((Activity.start overlay known moment).receive packet pick).known.registry.Knows
        walker.service introducer (walker.places candidate) := by
  have service : (Activity.start overlay known moment).service = introducer.service :=
    (runs.service moment).trans triangle.introducerService.symm
  rw [Activity.receive_response vouched whole service pick]
  generalize heard : ((Activity.start overlay known moment).noteHeard packet).hear _ = activity
  obtain ⟨settled, same, sameOverlay, silent, sameLog⟩ := runs.hear heard
  have names : activity.known.wanLog.Names walker.wan := by
    rw [sameLog]
    exact runs.names
  have contact := introducer.contact_signer source time
    (Activity.start overlay known moment).moment.now
  obtain ⟨lastOverlay, sent, knows⟩ := settled.takeResponse_spec triangle names
    (runs.blocks.congr same.blockedMembers same.blockedAddresses)
    (same.verified_eq_empty nobody) (same.addresses.trans nowhere) connection identifier contact
  exact ⟨lastOverlay.trans sameOverlay, sent.trans silent, knows⟩

end Host.Runs

theorem Triangle.receive_puncture_spec {walker introducer candidate : Host}
    (triangle : Triangle walker introducer candidate) {overlay : Overlay}
    {known : Neighbourhood} (configured : overlay.settings = walker.settings)
    {found : List Address} (knows : known.registry.Knows walker.service introducer found)
    {packet : Packet} {time : UInt64} {identifier : UInt16}
    (vouched : candidate.Vouches .puncture time (candidate.puncture identifier).encode)
    (whole : packet.data = (candidate.draft .puncture time).frame
      (candidate.puncture identifier).encode) (moment : Moment) (pick : Nat) :
    ((Activity.start overlay known moment).receive packet pick).sent = [] ∧
      ((Activity.start overlay known moment).receive packet pick).known.registry.Knows
        walker.service introducer found := by
  have service : (Activity.start overlay known moment).service = candidate.service :=
    (congrArg OverlaySettings.service configured).trans triangle.candidateService.symm
  rw [Activity.receive_puncture vouched whole service pick]
  exact ⟨rfl, knows.sameContacts
    (Activity.sameContacts_hear (.start overlay known moment) packet _)⟩

theorem Host.target_eq (walker candidate : Host) :
    walker.target candidate = walker.lan ∨ walker.target candidate = walker.wan := by
  unfold target
  split
  · exact .inl rfl
  · exact .inr rfl

/-- Every message of an introduction is addressed to the one station it is meant for. -/
theorem Rendezvous.owners {walker introducer candidate : Host}
    {first second third : Station × Neighbourhood}
    (rendezvous : Rendezvous walker introducer candidate first second third)
    (occasion : Occasion) :
    (first.1.owns (occasion.request walker introducer).destination = false ∧
        second.1.owns (occasion.request walker introducer).destination = true) ∧
      (first.1.owns (occasion.punctureRequest walker introducer candidate).destination = false ∧
        second.1.owns (occasion.punctureRequest walker introducer candidate).destination = false ∧
        third.1.owns (occasion.punctureRequest walker introducer candidate).destination = true) ∧
      (first.1.owns (occasion.response walker introducer candidate).destination = true ∧
        first.1.owns (occasion.puncture walker candidate).destination = true) := by
  have triangle := rendezvous.triangle
  obtain ⟨lan, wan⟩ := triangle.known walker (by simp)
  have introducerKnown := (triangle.known introducer (by simp)).2
  have candidateKnown := (triangle.known candidate (by simp)).2
  have targetKnown : walker.target candidate ≠ .empty := by
    rcases walker.target_eq candidate with same | same
    · rw [same]
      exact lan
    · rw [same]
      exact wan
  obtain ⟨introducerForeign, candidateForeign, candidateForeignToo⟩ := triangle.foreign_wans
  refine ⟨⟨?_, ?_⟩, ⟨?_, ?_, ?_⟩, ?_, ?_⟩
  · exact rendezvous.firstSits.owns_eq_false introducerKnown introducerForeign
  · exact (rendezvous.secondSits.owns_iff introducerKnown).2 (.inr rfl)
  · exact rendezvous.firstSits.owns_eq_false candidateKnown candidateForeign
  · exact rendezvous.secondSits.owns_eq_false candidateKnown candidateForeignToo
  · exact (rendezvous.thirdSits.owns_iff candidateKnown).2 (.inr rfl)
  · exact (rendezvous.firstSits.owns_iff wan).2 (.inr rfl)
  · exact (rendezvous.firstSits.owns_iff targetKnown).2 (walker.target_eq candidate)

/-- When the walker walks to the introducer and everything is delivered in order, the
four messages are exchanged, and everybody is introduced. -/
theorem Rendezvous.introduced_pump {walker introducer candidate : Host}
    {first second third : Station × Neighbourhood}
    (rendezvous : Rendezvous walker introducer candidate first second third)
    (notices : List Notice) (now later : Instant) (pick : Nat) {limit : Nat}
    (enough : 4 ≤ limit) :
    Introduced walker introducer candidate second.2.registry third.2.registry
      ((Occasion.before first second third).messages walker introducer candidate)
      (((Switch.trio first second third [] notices).act 0 now
        (·.walkTo introducer.wan)).pump later pick limit) := by
  have triangle := rendezvous.triangle
  have lone := rendezvous.coherent.lone rendezvous.onlyPeer
  obtain ⟨more, rfl⟩ : ∃ more, limit = more + 4 := ⟨limit - 4, by omega⟩
  generalize occurs : Occasion.before first second third = occasion
  -- the walker walks
  obtain ⟨walkedSent, runs, same⟩ := rendezvous.walkerRuns.walkTo_spec ⟨now, first.1.isOpen⟩
    introducer.wan
  generalize walks : (Activity.start first.1.overlay first.2 ⟨now, first.1.isOpen⟩).walkTo
    introducer.wan = walked at walkedSent runs same
  have walkedPosts : first.1.posts walked = [occasion.request walker introducer] := by
    rw [rendezvous.firstSits.posts_eq, walkedSent, ← occurs]
    rfl
  have walkedSits := rendezvous.firstSits.after walked
  -- the introducer answers
  obtain ⟨answeredSent, answeredContacts, answeredService⟩ :=
    rendezvous.introducerRuns.receive_request_spec triangle lone rendezvous.room
      (show (occasion.request walker introducer).packet.source = walker.wan from rfl)
      rendezvous.requestVouched (by rw [← occurs]; rfl) ⟨later, second.1.isOpen⟩ pick
  generalize answers : (Activity.start second.1.overlay second.2 ⟨later, second.1.isOpen⟩).receive
    (occasion.request walker introducer).packet pick = answered
      at answeredSent answeredContacts answeredService
  have answeredPosts : second.1.posts answered =
      [occasion.punctureRequest walker introducer candidate,
        occasion.response walker introducer candidate] := by
    rw [rendezvous.secondSits.posts_eq, answeredSent, ← occurs]
    rfl
  -- the candidate sends a puncture
  obtain ⟨puncturedSent, puncturedSame⟩ :=
    rendezvous.candidateRuns.receive_punctureRequest_spec triangle
      (show (occasion.punctureRequest walker introducer candidate).packet.data = _ from rfl)
      ⟨later, third.1.isOpen⟩ pick
  generalize punctures : (Activity.start third.1.overlay third.2 ⟨later, third.1.isOpen⟩).receive
    (occasion.punctureRequest walker introducer candidate).packet pick = punctured
      at puncturedSent puncturedSame
  have puncturedPosts : third.1.posts punctured = [occasion.puncture walker candidate] := by
    rw [rendezvous.thirdSits.posts_eq, puncturedSent, ← occurs]
    rfl
  -- the walker takes the response
  obtain ⟨takenOverlay, takenSent, takenKnows⟩ := runs.receive_response_spec triangle
    (same.verified_eq_empty rendezvous.nobody) (same.addresses.trans rendezvous.nowhere)
    (show (occasion.response walker introducer candidate).packet.source = introducer.wan from rfl)
    rendezvous.responseVouched (by rw [← occurs]; rfl) ⟨later, first.1.isOpen⟩ pick
  generalize takes : (Activity.start walked.overlay walked.known ⟨later, first.1.isOpen⟩).receive
    (occasion.response walker introducer candidate).packet pick = taken
      at takenOverlay takenSent takenKnows
  have takenPosts : (first.1.after walked).posts taken = [] := by
    rw [walkedSits.posts_eq, takenSent]
    rfl
  -- the walker hears the puncture
  have configured : taken.overlay.settings = walker.settings := by
    rw [takenOverlay]
    exact runs.configured
  obtain ⟨heardSent, heardKnows⟩ := triangle.receive_puncture_spec configured takenKnows
    rendezvous.punctureVouched
    (show (occasion.puncture walker candidate).packet.data = _ by rw [← occurs]; rfl)
    ⟨later, first.1.isOpen⟩ pick
  generalize hears : (Activity.start taken.overlay taken.known ⟨later, first.1.isOpen⟩).receive
    (occasion.puncture walker candidate).packet pick = heard at heardSent heardKnows
  have heardPosts : (first.1.after walked).posts heard = [] := by
    rw [walkedSits.posts_eq, heardSent]
    rfl
  -- all four messages reach their hosts, and nothing is left
  obtain ⟨toIntroducer, toCandidate, toWalker⟩ := rendezvous.owners occasion
  have exchange := Switch.pump_trio (first.1.after walked, walked.known)
    ⟨rendezvous.firstSits.home, rendezvous.secondSits.home, rendezvous.thirdSits.home⟩
    toIntroducer toCandidate toWalker answers answeredPosts punctures puncturedPosts takes
    takenPosts hears heardPosts (notices ++ walked.notices) more
  rw [Switch.act_first (·.walkTo introducer.wan) rendezvous.firstSits.home walks, walkedPosts,
    List.nil_append, exchange]
  have elsewhere : introducer.wan ∉ walker.places candidate := by
    intro listed
    obtain ⟨-, -, -, differs, -⟩ := triangle.foreign_places listed
    exact differs rfl
  exact
    { transits := rfl
      queue := rfl
      walkerKnows := ⟨_, rfl, heardKnows, heardKnows.mem_walkable elsewhere⟩
      introducerKnows := ⟨_, rfl, answeredContacts, answeredService⟩
      candidateKnows := ⟨_, rfl, puncturedSame⟩ }

theorem Registry.BlocksOnly.meet {registry : Registry} {host : Host}
    (blocks : registry.BlocksOnly host) (peer : Peer) (member : MemberId)
    (services : List ServiceId) :
    (registry.run [.verify peer, .addServices member services]).BlocksOnly host :=
  blocks.congr (registry.blockedMembers_verify peer) (registry.blockedAddresses_verify peer)

namespace Host

def acquainted (host : Host) (moment : Moment) (met : List Registry.Operation) :
    Neighbourhood :=
  { registry := (host.joined moment).known.registry.run met
    wanLog := ⟨[⟨moment.now, .empty, host.lan, host.wan⟩]⟩ }

theorem sits_station (host : Host) (home : Nat) (moment : Moment) :
    host.Sits home (host.station home moment) := ⟨rfl, rfl, rfl, rfl⟩

theorem blocksOnly_joined (host : Host) (moment : Moment) :
    (host.joined moment).known.registry.BlocksOnly host where
  members := by
    intro member blocked
    rw [registry_joined, Activity.registry_joined, Registry.foldl_blockAddress_eq] at blocked
    simp only [Registry.blockMember, Registry.empty, Std.ExtTreeSet.contains_insert] at blocked
    simp at blocked
    exact blocked.symm
  addresses := by
    intro address blocked
    rw [registry_joined, Activity.registry_joined, Registry.isBlocked_foldl_blockAddress] at blocked
    rcases blocked with before | listed
    · simp [Registry.isBlocked, Registry.blockMember, Registry.empty] at before
    · exact listed

theorem runs_station (host : Host) (home : Nat) (moment : Moment)
    {met : List Registry.Operation}
    (blocks : (host.acquainted moment met).registry.BlocksOnly host) :
    host.Runs (host.station home moment).overlay (host.acquainted moment met) where
  key := congrArg Overlay.key (host.overlay_joined moment)
  configured := congrArg Overlay.settings (host.overlay_joined moment)
  lan := congrArg Overlay.lan (host.overlay_joined moment)
  names := by
    intro report listed
    cases List.mem_singleton.1 listed
    rfl
  reported := by simp [acquainted]
  blocks := blocks

def numbered (number : Nat) (lan wan : Address) : Host :=
  { key := .ofSecrets (Block.ofNatLE 32 number) (Block.ofNatLE 32 number)
    settings := { service := ⟨Block.ofNatLE 20 0⟩ }
    lan
    wan }

end Host

namespace Rendezvous

def sampleWalker : Host := .numbered 1 ⟨⟨10, 0, 0, 1⟩, 8090⟩ ⟨⟨1, 1, 1, 1⟩, 8090⟩

def sampleIntroducer : Host := .numbered 2 ⟨⟨10, 0, 0, 2⟩, 8090⟩ ⟨⟨2, 2, 2, 2⟩, 8090⟩

def sampleCandidate : Host := .numbered 3 ⟨⟨10, 0, 0, 3⟩, 8090⟩ ⟨⟨3, 3, 3, 3⟩, 8090⟩

def sampleMet : List Registry.Operation :=
  [.verify ((Peer.seenAt (.theirs sampleCandidate.key.publicKey) sampleCandidate.wan false
      0).reporting sampleCandidate.lan sampleCandidate.wan),
    .addServices sampleCandidate.memberId [sampleCandidate.service]]

def sampleFirst : Station × Neighbourhood :=
  (sampleWalker.station 0 ⟨0, true⟩, sampleWalker.acquainted ⟨0, true⟩ [])

def sampleSecond : Station × Neighbourhood :=
  (sampleIntroducer.station 1 ⟨0, true⟩, sampleIntroducer.acquainted ⟨0, true⟩ sampleMet)

def sampleThird : Station × Neighbourhood :=
  (sampleCandidate.station 2 ⟨0, true⟩, sampleCandidate.acquainted ⟨0, true⟩ [])

theorem sample_members : [sampleWalker, sampleIntroducer, sampleCandidate].Pairwise
    fun first second => first.memberId ≠ second.memberId := by
  decide +kernel

theorem sample_triangle : Triangle sampleWalker sampleIntroducer sampleCandidate where
  introducerService := rfl
  candidateService := rfl
  keys := sample_members.imp fun differ same => differ (congrArg PublicKey.memberId same)
  collisionFree := by
    refine List.Pairwise.forall_of_forall_of_flip ?_ ?_ ?_
    · intro host listed same
      rfl
    · exact sample_members.imp fun differ same => absurd same differ
    · exact sample_members.imp fun differ same => absurd same.symm differ
  different := by decide
  known := by decide
  unlisted := by decide

theorem sample_onlyPeer :
    (sampleSecond.2.registry.peersFor sampleIntroducer.service).map
      (fun entry => entry.2.contact) = [sampleCandidate.contact] := by
  decide +kernel

theorem sample_ready : Rendezvous sampleWalker sampleIntroducer sampleCandidate sampleFirst
    sampleSecond sampleThird where
  triangle := sample_triangle
  firstSits := sampleWalker.sits_station 0 _
  secondSits := sampleIntroducer.sits_station 1 _
  thirdSits := sampleCandidate.sits_station 2 _
  walkerRuns := sampleWalker.runs_station 0 _ (sampleWalker.blocksOnly_joined _)
  introducerRuns := by
    have blocks := sampleIntroducer.blocksOnly_joined ⟨0, true⟩
    exact sampleIntroducer.runs_station 1 ⟨0, true⟩ (blocks.meet _ _ _)
  candidateRuns := sampleCandidate.runs_station 2 _ (sampleCandidate.blocksOnly_joined _)
  nobody := by
    rw [← Activity.verified_joined sampleWalker.key sampleWalker.settings ⟨0, true⟩]
    exact congrArg Registry.verified (sampleWalker.registry_joined _)
  nowhere := by
    rw [← Activity.addresses_joined sampleWalker.key sampleWalker.settings ⟨0, true⟩]
    exact congrArg Registry.addresses (sampleWalker.registry_joined _)
  coherent := Registry.Coherent.empty.run (.blockMember sampleIntroducer.memberId :: sampleMet)
  onlyPeer := sample_onlyPeer
  room := by
    intro limit bounded
    cases bounded
    decide
  requestVouched := ⟨Packet.length_frontOf _ _, by decide +kernel, by decide +kernel⟩
  responseVouched := ⟨Packet.length_frontOf _ _, by decide +kernel, by decide +kernel⟩
  punctureVouched := ⟨Packet.length_frontOf _ _, by decide +kernel, by decide +kernel⟩

theorem introduced_sample :
    Rendezvous sampleWalker sampleIntroducer sampleCandidate sampleFirst sampleSecond sampleThird ∧
      Introduced sampleWalker sampleIntroducer sampleCandidate sampleSecond.2.registry
        sampleThird.2.registry
        ((Occasion.before sampleFirst sampleSecond sampleThird).messages sampleWalker
          sampleIntroducer sampleCandidate)
        (((Switch.trio sampleFirst sampleSecond sampleThird [] []).act 0 0
          (·.walkTo sampleIntroducer.wan)).pump 0 0 4) :=
  ⟨sample_ready, sample_ready.introduced_pump [] 0 0 0 (Nat.le_refl 4)⟩

end Rendezvous

end PeerDiscovery
