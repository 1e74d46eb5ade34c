import Mathlib.Algebra.Group.Nat.Defs
import PeerDiscovery.Proofs.Overlay.Estimates
import PeerDiscovery.Proofs.Packet.Building
import PeerDiscovery.Proofs.Packet.Stamps

/-!
# Global times

An overlay claims a global time for every packet that it builds, and now and then one for its own
sake.  A course of operations makes a list of claims.  The time of a packet is read from its bytes,
and follows from the place of its claim in the list, so that no time is used twice until the clock
has gone round.

An introduction request is named by its own time, and what answers a packet by the identifier of
that packet.
-/

namespace PeerDiscovery

theorem IntroductionRequest.toNat_identifierAt (time : UInt64) :
    (identifierAt time).toNat = time.toNat % 65535 := by
  have small := Nat.mod_lt time.toNat (by decide : 0 < 65535)
  rw [identifierAt, UInt16.toNat_ofNat', Nat.mod_eq_of_lt (by omega)]

namespace Packet

def identifier? (packet : Packet) : Option UInt16 := packet.stamp?.map (·.identifier)

/-- An introduction request whose identifier is its own time, shortened. -/
structure Stamp.IsRequest (stamp : Stamp) : Prop where
  message : stamp.message = .introductionRequest
  identifier : stamp.identifier = IntroductionRequest.identifierAt stamp.time

/-- Anything but a request, with the identifier of a packet. -/
structure Stamp.Repeats (packet : Packet) (stamp : Stamp) : Prop where
  message : stamp.message ≠ .introductionRequest
  identifier : packet.identifier? = some stamp.identifier

end Packet

namespace Activity

variable {activity middle next : Activity} {fits : Packet.Stamp → Prop}

/-- Packets were built and sent, each at the next global time. -/
def Posts (fits : Packet.Stamp → Prop) (activity next : Activity) : Prop :=
  ∃ news : List Datagram, next.sent = activity.sent ++ news ∧
    next.overlay.globalTime = activity.overlay.globalTime + .ofNat news.length ∧
    ∀ index datagram, news[index]? = some datagram → ∃ stamp,
      (⟨.empty, datagram.data⟩ : Packet).stamp? = some stamp ∧
      stamp.time = activity.overlay.globalTime + .ofNat (index + 1) ∧ fits stamp

namespace Posts

theorem none (sent : next.sent = activity.sent)
    (time : next.overlay.globalTime = activity.overlay.globalTime) : Posts fits activity next := by
  refine ⟨[], by rw [sent, List.append_nil], ?_, ?_⟩
  · rw [time]
    exact (UInt64.add_zero _).symm
  · intro index datagram found
    simp at found

theorem refl (activity : Activity) : Posts fits activity activity := none rfl rfl

theorem imp {looser : Packet.Stamp → Prop} (posts : Posts fits activity next)
    (weaker : ∀ stamp, fits stamp → looser stamp) : Posts looser activity next := by
  obtain ⟨news, sent, clock, stamped⟩ := posts
  refine ⟨news, sent, clock, fun index datagram found => ?_⟩
  obtain ⟨stamp, read, time, fitting⟩ := stamped index datagram found
  exact ⟨stamp, read, time, weaker stamp fitting⟩

theorem trans (earlier : Posts fits activity middle) (later : Posts fits middle next) :
    Posts fits activity next := by
  obtain ⟨news, sent, clock, stamped⟩ := earlier
  obtain ⟨others, sentLater, clockLater, stampedLater⟩ := later
  refine ⟨news ++ others, ?_, ?_, ?_⟩
  · rw [sentLater, sent, List.append_assoc]
  · rw [clockLater, clock, List.length_append, UInt64.ofNat_add, UInt64.add_assoc]
  · intro index datagram found
    rw [List.getElem?_append] at found
    split at found
    · exact stamped index datagram found
    · rename_i beyond
      obtain ⟨stamp, read, time, fitting⟩ := stampedLater _ datagram found
      refine ⟨stamp, read, ?_, fitting⟩
      have place : news.length + (index - news.length + 1) = index + 1 := by omega
      rw [time, clock, UInt64.add_assoc, ← UInt64.ofNat_add, place]

end Posts

theorem isSome_signer_draft (overlay : Overlay) (messageId : UInt8) (isSigned : Bool) :
    (overlay.draft messageId isSigned).signer.isSome = isSigned := by
  unfold Overlay.draft
  cases isSigned <;> rfl

/-- A membership message that was written has the next global time. -/
theorem stamp?_write (activity : Activity) {message : MembershipMessage} {content : Bytes}
    {identifier : UInt16} (identified : message.identifier? content = some identifier) :
    (⟨.empty, (activity.claimTime.overlay.draft message.id message.isSigned).frame content⟩ :
      Packet).stamp? = some ⟨message, activity.overlay.globalTime + 1, identifier⟩ := by
  have whole : (⟨.empty, (activity.claimTime.overlay.draft message.id message.isSigned).frame
      content⟩ : Packet).data =
    (activity.claimTime.overlay.draft message.id message.isSigned).frame content := rfl
  exact Packet.Draft.stamp?_frame whole rfl (isSome_signer_draft _ _ _) identified

theorem posts_one {message : MembershipMessage} {content : Bytes} {identifier : UInt16}
    (identified : message.identifier? content = some identifier)
    (fitting : fits ⟨message, activity.overlay.globalTime + 1, identifier⟩)
    (destination : Address) :
    Posts fits activity (activity.claimTime.sendTo destination
      ((activity.claimTime.overlay.draft message.id message.isSigned).frame content)) := by
  refine ⟨[_], rfl, rfl, ?_⟩
  intro index datagram found
  obtain ⟨rfl, rfl⟩ : index = 0 ∧ _ = datagram := by
    simpa [List.getElem?_singleton] using found
  exact ⟨_, activity.stamp?_write identified, rfl, fitting⟩

theorem posts_walkTo (activity : Activity) (destination : Address) :
    Posts Packet.Stamp.IsRequest activity (activity.walkTo destination) := by
  rw [walkTo_eq]
  exact posts_one (MembershipMessage.identifier?_request _) ⟨rfl, rfl⟩ destination

theorem keptByInitiatives_posts (start : Activity) :
    KeptByInitiatives (Posts Packet.Stamp.IsRequest start) where
  walkTo activity destination before := before.trans (activity.posts_walkTo destination)
  noteBootstrap _ before := before.trans (.none rfl rfl)
  forgetAddress _ _ before _ := before.trans (.none rfl rfl)

section

variable {packet : Packet} {pick : Nat}

theorem posts_askCandidate (activity : Activity) {walker : Puncture}
    (repeated : packet.identifier? = some walker.identifier) (introduced : Option Peer) :
    Posts (Packet.Stamp.Repeats packet) activity (activity.askCandidate walker introduced) := by
  cases introduced with
  | none => exact .refl activity
  | some candidate =>
      rw [askCandidate, requestPuncture_eq]
      exact posts_one (MembershipMessage.identifier?_punctureRequest walker) ⟨nofun, repeated⟩ _

theorem posts_respond (activity : Activity) (requester : Peer) {identifier : UInt16}
    (repeated : packet.identifier? = some identifier) (introduced : Option Peer) :
    Posts (Packet.Stamp.Repeats packet) activity
      (activity.respond requester identifier introduced) := by
  rw [respond_eq]
  exact posts_one (MembershipMessage.identifier?_response _) ⟨nofun, repeated⟩ _

theorem posts_puncture (activity : Activity) {walker : Puncture}
    (repeated : packet.identifier? = some walker.identifier) :
    Posts (Packet.Stamp.Repeats packet) activity (activity.puncture walker) := by
  rw [puncture_eq]
  exact posts_one (MembershipMessage.identifier?_puncture _) ⟨nofun, repeated⟩ _

theorem posts_answerRequest (activity : Activity) (peer : Peer) {request : IntroductionRequest}
    (repeated : packet.identifier? = some request.identifier) (pick : Nat) :
    Posts (Packet.Stamp.Repeats packet) activity (activity.answerRequest peer request pick) := by
  rw [answerRequest_eq]
  split
  · exact .none rfl rfl
  · dsimp only
    generalize peer.reporting request.sourceLan request.sourceWan = requester
    have verified : Posts (Packet.Stamp.Repeats packet) activity (activity.verify requester) :=
      .none rfl rfl
    have repeatedByPuncture : packet.identifier? =
        some (⟨requester.lan, requester.wan, request.identifier⟩ : Puncture).identifier :=
      repeated
    have asked := verified.trans (posts_askCandidate (activity.verify requester)
      repeatedByPuncture
      ((activity.verify requester).introduction? (some requester.memberId) pick))
    exact asked.trans (posts_respond _ requester repeated _)

theorem posts_takeResponse (activity : Activity) (peer : Peer) (response : IntroductionResponse) :
    Posts fits activity (activity.takeResponse peer response) := by
  have learned : Posts fits activity (activity.learnWan peer.address response.destination) := by
    unfold learnWan
    split
    · exact .refl activity
    · exact .none rfl rfl
  rw [takeResponse_eq]
  exact learned.trans (.none rfl rfl)

theorem posts_takeMembership {message : MembershipMessage}
    (numbered : packet.messageId? = some message.id)
    (taken : activity.takeMembership message packet pick = .ok next) :
    Posts (Packet.Stamp.Repeats packet) activity next := by
  cases message with
  | introductionRequest =>
      obtain ⟨signed, opened, ⟨⟩⟩ := bind_eq_ok_iff.1 taken
      have repeated : packet.identifier? = some signed.payload.identifier := by
        rw [Packet.identifier?, Packet.stamp?_of_openSigned numbered opened]
        rfl
      have heard : Posts (Packet.Stamp.Repeats packet) activity (activity.hear signed) :=
        .none rfl rfl
      exact heard.trans (posts_answerRequest _ _ repeated pick)
  | introductionResponse =>
      obtain ⟨signed, -, ⟨⟩⟩ := bind_eq_ok_iff.1 taken
      have heard : Posts (Packet.Stamp.Repeats packet) activity (activity.hear signed) :=
        .none rfl rfl
      exact heard.trans (posts_takeResponse _ _ _)
  | puncture =>
      obtain ⟨signed, -, ⟨⟩⟩ := bind_eq_ok_iff.1 taken
      exact .none rfl rfl
  | punctureRequest =>
      obtain ⟨unsigned, opened, ⟨⟩⟩ := bind_eq_ok_iff.1 taken
      refine posts_puncture activity ?_
      rw [Packet.identifier?, Packet.stamp?_of_openUnsigned numbered opened]
      rfl

theorem posts_takeApplication {handler : Handler} {messageId : UInt8}
    (taken : activity.takeApplication handler messageId packet = .ok next) :
    Posts fits activity next := by
  cases handler with
  | rejects cause => cases taken
  | reads protection format =>
      cases protection <;>
        · obtain ⟨read, -, ⟨⟩⟩ := bind_eq_ok_iff.1 taken
          exact .none rfl rfl

theorem messageId_of_membership {overlay : Overlay} {messageId : UInt8}
    {message : MembershipMessage}
    (reacts : overlay.reaction? messageId = some (.membership message)) :
    messageId = message.id := by
  unfold Overlay.reaction? at reacts
  split at reacts
  · rename_i found named
    cases reacts
    exact MembershipMessage.ofId?_eq_some_iff.1 named
  · obtain ⟨handler, -, ⟨⟩⟩ := Option.map_eq_some_iff.1 reacts

/-- Whatever answers a packet repeats its identifier, and never asks for an introduction. -/
theorem posts_receive (activity : Activity) (packet : Packet) (pick : Nat) :
    Posts (Packet.Stamp.Repeats packet) activity (activity.receive packet pick) := by
  unfold receive
  split
  · dsimp only
    split
    · exact .none rfl rfl
    · rename_i messageId numbered
      split
      · exact .none rfl rfl
      · rename_i reaction reacts
        split
        · rename_i following reacted
          have noted : Posts (Packet.Stamp.Repeats packet) activity (activity.noteHeard packet) :=
            .none rfl rfl
          cases reaction with
          | membership message =>
              rw [messageId_of_membership reacts] at numbered
              exact noted.trans (posts_takeMembership numbered reacted)
          | application handler => exact noted.trans (posts_takeApplication reacted)
        · exact .none rfl rfl
  · exact .refl activity

end

end Activity

inductive Claim where
  | nothing
  | message (data : Bytes)
  /-- A packet of the application, which may not come about. -/
  | application (isSigned : Bool) (data? : Option Bytes)

namespace Claim

def packet? : Claim → Option Bytes
  | nothing => none
  | message data => some data
  | application _ data? => data?

def stamp? : Claim → Option Packet.Stamp
  | message data => (⟨.empty, data⟩ : Packet).stamp?
  | _ => none

def time? : Claim → Option UInt64
  | nothing => none
  | message data => (⟨.empty, data⟩ : Packet).stamp?.map (·.time)
  | application isSigned data? => data?.bind fun data => (⟨.empty, data⟩ : Packet).time? isSigned

/-- The packet has a certain time, and a request is named by it. -/
structure At (claim : Claim) (time : UInt64) : Prop where
  packet : claim.packet?.isSome = true → claim.time? = some time
  request : ∀ stamp, claim.stamp? = some stamp → stamp.message = .introductionRequest →
    stamp.IsRequest

theorem isSome_packet?_of_time? {claim : Claim} {time : UInt64} (found : claim.time? = some time) :
    claim.packet?.isSome = true := by
  cases claim with
  | nothing => cases found
  | message data => rfl
  | application isSigned data? =>
      obtain ⟨data, built, -⟩ := Option.bind_eq_some_iff.1 found
      exact Option.isSome_iff_exists.2 ⟨data, built⟩

theorem time?_of_stamp? {claim : Claim} {stamp : Packet.Stamp}
    (read : claim.stamp? = some stamp) : claim.time? = some stamp.time := by
  cases claim with
  | message data => exact Option.map_eq_some_iff.2 ⟨stamp, read, rfl⟩
  | nothing => cases read
  | application isSigned data? => cases read

theorem at_nothing (time : UInt64) : nothing.At time := ⟨nofun, nofun⟩

theorem at_message {data : Bytes} {stamp : Packet.Stamp}
    (read : (⟨.empty, data⟩ : Packet).stamp? = some stamp)
    (request : stamp.message = .introductionRequest → stamp.IsRequest) :
    (message data).At stamp.time where
  packet _ := by rw [time?, read]; rfl
  request other found := by
    cases read.symm.trans found
    exact request

theorem at_application {draft : Packet.Draft} {isSigned : Bool}
    (signed : draft.signer.isSome = isSigned) {data? : Option Bytes}
    (framed : ∀ data, data? = some data → ∃ content, data = draft.frame content) :
    (application isSigned data?).At draft.globalTime where
  packet built := by
    obtain ⟨data, built⟩ := Option.isSome_iff_exists.1 built
    obtain ⟨content, rfl⟩ := framed data built
    have found : (application isSigned data?).packet? = data? := rfl
    rw [found] at built
    rw [time?, built, Option.bind_some, ← signed, Packet.Draft.time?_frame rfl]
  request _ := nofun

end Claim

namespace Activity

variable {activity middle next : Activity} {claims others : List Claim} {claim : Claim}

/-- The clock goes forward by one for each claim, and each packet has the time of its claim. -/
structure Spends (activity : Activity) (claims : List Claim) (next : Activity) : Prop where
  clock : next.overlay.globalTime = activity.overlay.globalTime + .ofNat claims.length
  timed : ∀ (index : Nat) (claim : Claim), claims[index]? = some claim →
    claim.At (activity.overlay.globalTime + .ofNat (index + 1))

namespace Spends

theorem none (time : next.overlay.globalTime = activity.overlay.globalTime) :
    Spends activity [] next where
  clock := by
    rw [time]
    exact (UInt64.add_zero _).symm
  timed index claim found := by simp at found

theorem one (placed : claim.At (activity.overlay.globalTime + 1))
    (time : next.overlay.globalTime = activity.overlay.globalTime + 1) :
    Spends activity [claim] next where
  clock := time
  timed index other found := by
    obtain ⟨rfl, rfl⟩ : index = 0 ∧ claim = other := by
      simpa [List.getElem?_singleton] using found
    exact placed

theorem trans (earlier : Spends activity claims middle) (later : Spends middle others next) :
    Spends activity (claims ++ others) next where
  clock := by
    rw [later.clock, earlier.clock, List.length_append, UInt64.ofNat_add, UInt64.add_assoc]
  timed index claim found := by
    rw [List.getElem?_append] at found
    split at found
    · exact earlier.timed index claim found
    · rename_i beyond
      have placed := later.timed _ claim found
      have place : claims.length + (index - claims.length + 1) = index + 1 := by omega
      rwa [earlier.clock, UInt64.add_assoc, ← UInt64.ofNat_add, place] at placed

end Spends

def sentSince (next activity : Activity) : List Datagram := next.sent.drop activity.sent.length

theorem Posts.spends {fits : Packet.Stamp → Prop} (posts : Posts fits activity next)
    (request : ∀ stamp, fits stamp → stamp.message = .introductionRequest → stamp.IsRequest) :
    Spends activity ((next.sentSince activity).map (.message ·.data)) next := by
  obtain ⟨news, sent, clock, stamped⟩ := posts
  have fresh : next.sentSince activity = news := by rw [sentSince, sent, List.drop_left]
  rw [fresh]
  refine ⟨by rw [List.length_map]; exact clock, ?_⟩
  intro index claim found
  rw [List.getElem?_map, Option.map_eq_some_iff] at found
  obtain ⟨datagram, there, rfl⟩ := found
  obtain ⟨stamp, read, time, fitting⟩ := stamped index datagram there
  rw [← time]
  exact Claim.at_message read (request stamp fitting)

/-- Something that is asked of an overlay, or done to what it shares with others. -/
inductive Operation where
  | happens (event : Event)
  | claims
  | request (destination : Address) (extra : Bytes)
  | response (requester : Peer) (identifier : UInt16) (introduced : Option Peer)
  | puncture (content : Puncture)
  | punctureRequest (walker : Puncture)
  | application (messageId : UInt8) (isSigned : Bool) (payload : Bytes)
  | sealed (messageId : UInt8) (payload : Bytes) (recipient : PublicKey) (fresh : SealingNonce)
  | sends (destination : Address) (data : Bytes)
  | sendsToPeer (peer : Peer) (data : Bytes)
  | loads
  | unloads
  | handles (messageId : UInt8) (handler : Handler)
  | shares (known : Neighbourhood)

/-- The global times that an operation claims, and the activity after it. -/
def perform (activity : Activity) : Operation → List Claim × Activity
  | .happens event =>
    let next := activity.undergo activity.moment event
    ((next.sentSince activity).map (.message ·.data), next)
  | .claims => ([.nothing], activity.claimTime)
  | .request destination extra => noteMessage (activity.writeRequest destination extra)
  | .response requester identifier introduced =>
    noteMessage (activity.writeResponse requester identifier introduced)
  | .puncture content => noteMessage (activity.writePuncture content)
  | .punctureRequest walker => noteMessage (activity.writePunctureRequest walker)
  | .application messageId isSigned payload =>
    let (data, next) := activity.write messageId isSigned payload
    ([.application isSigned (some data)], next)
  | .sealed messageId payload recipient fresh =>
    let (built, next) := activity.writeSealed messageId payload recipient fresh
    ([.application true built.toOption], next)
  | .sends destination data => ([], activity.sendTo destination data)
  | .sendsToPeer peer data => ([], activity.sendToPeer peer data)
  | .loads => ([], activity.load)
  | .unloads => ([], activity.unload)
  | .handles messageId handler =>
    ([], { activity with overlay := activity.overlay.withHandler messageId handler })
  | .shares known => ([], { activity with known })
where
  noteMessage : Bytes × Activity → List Claim × Activity
    | (data, next) => ([.message data], next)

/-- The claims of some operations in a row, and the activity after them. -/
def course (activity : Activity) : List (Moment × Operation) → List Claim × Activity
  | [] => ([], activity)
  | (moment, operation) :: later =>
    let (claims, next) := { activity with moment }.perform operation
    let (others, last) := next.course later
    (claims ++ others, last)

/-- A request is named by its time, whatever happens. -/
theorem posts_undergo (activity : Activity) (event : Event) :
    Posts (fun stamp => stamp.message = .introductionRequest → stamp.IsRequest) activity
      (activity.undergo activity.moment event) := by
  cases event with
  | receives packet pick =>
      exact (posts_receive activity packet pick).imp fun stamp repeats request =>
        absurd request repeats.message
  | acts initiative =>
      have acted := (keptByInitiatives_posts activity).takeInitiative (.refl activity) initiative
      exact acted.imp fun stamp request _ => request
  | adoptsLan lan =>
      unfold undergo adoptLan
      dsimp only
      split
      · exact .refl _
      · exact .none rfl rfl

theorem spends_message (activity : Activity) {message : MembershipMessage} {content : Bytes}
    {identifier : UInt16} (identified : message.identifier? content = some identifier)
    (request : message = .introductionRequest →
      identifier = IntroductionRequest.identifierAt (activity.overlay.globalTime + 1)) :
    Spends activity
      [.message ((activity.claimTime.overlay.draft message.id message.isSigned).frame content)]
      activity.claimTime := by
  refine .one ?_ rfl
  exact Claim.at_message (activity.stamp?_write identified) fun named => ⟨named, request named⟩

theorem spends_perform (activity : Activity) (operation : Operation) :
    Spends activity (activity.perform operation).1 (activity.perform operation).2 := by
  cases operation with
  | happens event => exact (activity.posts_undergo event).spends fun _ request => request
  | claims => exact .one (Claim.at_nothing _) rfl
  | request destination extra =>
      exact spends_message activity (MembershipMessage.identifier?_request _) fun _ => rfl
  | response requester identifier introduced =>
      exact spends_message activity (MembershipMessage.identifier?_response _) nofun
  | puncture content =>
      exact spends_message activity (MembershipMessage.identifier?_puncture _) nofun
  | punctureRequest walker =>
      exact spends_message activity (MembershipMessage.identifier?_punctureRequest _) nofun
  | application messageId isSigned payload =>
      refine .one ?_ rfl
      refine Claim.at_application (isSome_signer_draft activity.claimTime.overlay messageId _) ?_
      rintro data ⟨⟩
      exact ⟨payload, rfl⟩
  | sealed messageId payload recipient fresh =>
      refine .one ?_ rfl
      let draft : Packet.Draft :=
        { activity.claimTime.overlay.draft messageId true with
          isSealed := true, recipient := some recipient }
      have framed : ∀ data, (draft.build fresh payload).toOption = some data →
          ∃ content, data = draft.frame content := by
        intro data found
        cases built : draft.build fresh payload with
        | error cause =>
            rw [built] at found
            cases found
        | ok bytes =>
            rw [built] at found
            cases found
            exact Packet.Draft.exists_of_build built
      have signed : draft.signer.isSome = true := rfl
      exact Claim.at_application signed framed
  | handles messageId handler =>
      refine .none ?_
      change (activity.overlay.withHandler messageId handler).globalTime = _
      unfold Overlay.withHandler
      split <;> rfl
  | loads => exact .none rfl
  | unloads => exact .none rfl
  | sends destination data => exact .none rfl
  | sendsToPeer peer data => exact .none rfl
  | shares known => exact .none rfl

theorem spends_course (activity : Activity) (operations : List (Moment × Operation)) :
    Spends activity (activity.course operations).1 (activity.course operations).2 := by
  induction operations generalizing activity with
  | nil => exact .none rfl
  | cons first later ih =>
      have now := { activity with moment := first.1 }.spends_perform first.2
      have all := now.trans (ih _)
      exact ⟨all.clock, all.timed⟩

theorem toNat_add_ofNat {clock : UInt64} {count : Nat} (small : clock.toNat + count < 2 ^ 64) :
    (clock + .ofNat count).toNat = clock.toNat + count := by
  have fits : count % 2 ^ 64 = count := Nat.mod_eq_of_lt (by omega)
  rw [UInt64.toNat_add, UInt64.toNat_ofNat', fits, Nat.mod_eq_of_lt small]

namespace Spends

variable (spends : Spends activity claims next)
  (small : activity.overlay.globalTime.toNat + claims.length < 2 ^ 64)

include spends small

/-- Before the clock goes round, the time of a packet is the place of its claim. -/
theorem toNat_time {index : Nat} {time : UInt64} (there : claims[index]? = some claim)
    (found : claim.time? = some time) :
    time.toNat = activity.overlay.globalTime.toNat + (index + 1) := by
  have placed := (spends.timed index claim there).packet (Claim.isSome_packet?_of_time? found)
  cases found.symm.trans placed
  have inside : index < claims.length := (List.getElem?_eq_some_iff.1 there).1
  exact toNat_add_ofNat (by omega)

theorem increasing : claims.Pairwise fun first second => ∀ earlier later,
    first.time? = some earlier → second.time? = some later → earlier < later := by
  rw [List.pairwise_iff_getElem]
  intro index place inside insideToo before earlier later found foundLater
  have early := spends.toNat_time small (List.getElem?_eq_getElem inside) found
  have late := spends.toNat_time small (List.getElem?_eq_getElem insideToo) foundLater
  rw [UInt64.lt_iff_toNat_lt]
  omega

/-- Requests of times that are close have different identifiers. -/
theorem distinct : claims.Pairwise fun first second => ∀ earlier later,
    first.stamp? = some earlier → second.stamp? = some later →
    earlier.message = .introductionRequest → later.message = .introductionRequest →
    later.time.toNat < earlier.time.toNat + 65535 → earlier.identifier ≠ later.identifier := by
  refine List.Pairwise.imp_of_mem ?_ (spends.increasing small)
  intro first second listed listedToo ordered earlier later read readLater request requestToo near
  obtain ⟨index, there⟩ := List.mem_iff_getElem?.1 listed
  obtain ⟨place, thereToo⟩ := List.mem_iff_getElem?.1 listedToo
  have named := ((spends.timed index first there).request earlier read request).identifier
  have namedToo := ((spends.timed place second thereToo).request later readLater
    requestToo).identifier
  have before := UInt64.lt_iff_toNat_lt.1
    (ordered _ _ (Claim.time?_of_stamp? read) (Claim.time?_of_stamp? readLater))
  rw [named, namedToo]
  intro same
  have sameRest := congrArg UInt16.toNat same
  rw [IntroductionRequest.toNat_identifierAt, IntroductionRequest.toNat_identifierAt] at sameRest
  omega

end Spends

/-- The global times of a course of operations, in which each claim stands for one. -/
structure NeverReused (start : Activity) (operations : List (Moment × Operation)) : Prop where
  clock : (start.course operations).2.overlay.globalTime =
    start.overlay.globalTime + .ofNat (start.course operations).1.length
  packet : ∀ (index : Nat) (claim : Claim), (start.course operations).1[index]? = some claim →
    claim.packet?.isSome = true →
    claim.time? = some (start.overlay.globalTime + .ofNat (index + 1))
  increasing :
    start.overlay.globalTime.toNat + (start.course operations).1.length < 2 ^ 64 →
    (start.course operations).1.Pairwise fun first second => ∀ earlier later,
      first.time? = some earlier → second.time? = some later → earlier < later
  request : ∀ claim ∈ (start.course operations).1, ∀ stamp, claim.stamp? = some stamp →
    stamp.message = .introductionRequest → stamp.IsRequest
  distinct :
    start.overlay.globalTime.toNat + (start.course operations).1.length < 2 ^ 64 →
    (start.course operations).1.Pairwise fun first second => ∀ earlier later,
      first.stamp? = some earlier → second.stamp? = some later →
      earlier.message = .introductionRequest → later.message = .introductionRequest →
      later.time.toNat < earlier.time.toNat + 65535 → earlier.identifier ≠ later.identifier
  acts : ∀ moment initiative, Posts Packet.Stamp.IsRequest (start.course operations).2
    ((start.course operations).2.undergo moment (.acts initiative))
  answers : ∀ moment packet pick, Posts (Packet.Stamp.Repeats packet) (start.course operations).2
    ((start.course operations).2.undergo moment (.receives packet pick))

theorem neverReused_course (start : Activity) (operations : List (Moment × Operation)) :
    NeverReused start operations := by
  have spends := start.spends_course operations
  refine
    { clock := spends.clock
      packet := fun index claim there => (spends.timed index claim there).packet
      increasing := spends.increasing
      request := ?_
      distinct := spends.distinct
      acts := ?_
      answers := ?_ }
  · intro claim listed
    obtain ⟨index, there⟩ := List.mem_iff_getElem?.1 listed
    exact (spends.timed index claim there).request
  · intro moment initiative
    exact (keptByInitiatives_posts _).takeInitiative (.none rfl rfl) initiative
  · intro moment packet pick
    have atMoment : Posts (Packet.Stamp.Repeats packet) (start.course operations).2
        { (start.course operations).2 with moment } := .none rfl rfl
    exact atMoment.trans (posts_receive _ packet pick)

/-- A claim for nothing leaves a gap. -/
example : ((start (OverlayPlan.build { settings := { service := ⟨Block.ofNatLE 20 0⟩ } }
    Packet.sampleSigner) .empty ⟨0, true⟩).course
      [(⟨0, true⟩, .punctureRequest Packet.samplePuncture), (⟨1, true⟩, .claims),
        (⟨2, true⟩, .punctureRequest Packet.samplePuncture)]).1.map Claim.time? =
    [some 1, none, some 3] := by
  decide +kernel

end Activity

end PeerDiscovery
