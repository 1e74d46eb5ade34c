import Mathlib.Data.Finset.Card
import PeerDiscovery.Proofs.Overlay.Authentication
import PeerDiscovery.Proofs.Overlay.Reports
import PeerDiscovery.Proofs.Payload.Layout
import PeerDiscovery.Proofs.Registry.Introductions
import PeerDiscovery.Proofs.WanLog.Vote

/-!
# Estimates of the own addresses

An overlay that has the log of reports for itself keeps it coherent: each report was made
while the overlay's LAN address was the one it is now, by somebody outside of the own
network.  Only an accepted response brings a report, and another LAN address makes all of
them void.

Of a coherent log the connection can be told from the two estimates and from how many WAN
addresses are named, whatever LAN address the last report was made under.
-/

namespace PeerDiscovery

/-- An address of somebody who sees this node from outside of its network. -/
structure Address.IsOutside (address : Address) : Prop where
  nonempty : address ≠ .empty
  notLoopback : address.ip.first ≠ 127
  notPrivate : ¬(address.ip.first = 10 ∨
    (address.ip.first = 172 ∧ 16 ≤ address.ip.second ∧ address.ip.second ≤ 31) ∨
    (address.ip.first = 192 ∧ address.ip.second = 168))
  notLinkLocal : ¬(address.ip.first = 169 ∧ address.ip.second = 254)

/-- Half of the top byte tells the sixteen private networks that start with 172. -/
theorem Ipv4.masked_eq_iff (second : UInt8) :
    second &&& 0xf0 = 16 ↔ 16 ≤ second ∧ second ≤ 31 := by
  revert second
  exact ConnectionFlags.forall_byte (by decide +kernel)

theorem Address.isOutside_iff (address : Address) :
    (address.isLan || address.isLoopback || address.isEmpty) = false ↔ address.IsOutside := by
  simp only [isLan, isLoopback, Ipv4.isPrivate, Ipv4.isLinkLocal, Ipv4.isLoopback,
    Bool.or_eq_false_iff, isEmpty_eq_false_iff, Bool.and_eq_false_iff, beq_eq_false_iff_ne]
  constructor
  · rintro ⟨⟨⟨⟨⟨notTen, notFew⟩, notMany⟩, notLinkLocal⟩, notLoopback⟩, nonempty⟩
    refine ⟨nonempty, notLoopback, ?_, ?_⟩
    · rintro (ten | ⟨first, second⟩ | ⟨first, second⟩)
      · exact notTen ten
      · exact notFew.elim (absurd first) (absurd ((Ipv4.masked_eq_iff _).2 second))
      · exact notMany.elim (absurd first) (absurd second)
    · rintro ⟨first, second⟩
      exact notLinkLocal.elim (absurd first) (absurd second)
  · rintro ⟨nonempty, notLoopback, notPrivate, notLinkLocal⟩
    rw [← Ipv4.masked_eq_iff, not_or, not_or, not_and_or, not_and_or] at notPrivate
    exact ⟨⟨⟨⟨⟨notPrivate.1, notPrivate.2.1⟩, notPrivate.2.2⟩, not_and_or.1 notLinkLocal⟩,
      notLoopback⟩, nonempty⟩

namespace WanLog

theorem isSome_estimate?_iff (log : WanLog) : log.estimate?.isSome = true ↔ log.reports ≠ [] := by
  rw [estimate?_eq_argmax, Option.isSome_iff_ne_none, ne_eq, List.argmax_eq_none,
    votes_eq_nil_iff]

theorem card_toFinset_eq (values : List Address) :
    values.toFinset.card = values.eraseDups.length := by
  match values with
  | [] => rfl
  | first :: others =>
      have rest := card_toFinset_eq (others.filter fun other => !other == first)
      have apart : (first :: others).toFinset =
          insert first (others.filter fun other => !other == first).toFinset := by
        ext address
        by_cases same : address = first <;> simp [same]
      rw [List.eraseDups_cons, List.length_cons, ← rest, apart,
        Finset.card_insert_of_notMem (by simp)]
termination_by values.length
decreasing_by
  have shorter := List.length_filter_le (fun other => !other == first) others
  simp only [List.length_cons]
  omega

/-- How many different WAN addresses the reports name. -/
theorem distinct_eq_card (log : WanLog) :
    log.distinct = (log.reports.map (·.wan)).toFinset.card :=
  (card_toFinset_eq _).symm

/-- When all reports were made under one LAN address, the class follows from the two
estimates and from the number of different WAN addresses. -/
theorem connection_of_lan {log : WanLog} {lan : Address}
    (under : log.Reports fun report => report.lan = lan) :
    log.connection =
      if log.reports ≠ [] ∧ log.estimate?.getD .empty = lan then .reachable
      else if 1 < log.reports.length ∧
          log.reports.length < 10 * ((log.reports.map (·.wan)).toFinset.card - 1) then .symmetric
      else .unknown := by
  have same : (log.estimate?.isSome && log.estimate? == log.reports.getLast?.map (·.lan)) = true ↔
      log.reports ≠ [] ∧ log.estimate?.getD .empty = lan := by
    rw [Bool.and_eq_true, isSome_estimate?_iff]
    refine and_congr_right fun reported => ?_
    obtain ⟨wan, estimated⟩ := Option.isSome_iff_exists.1 (log.isSome_estimate?_iff.2 reported)
    have ends := List.getLast?_eq_some_getLast reported
    have lastLan := under _ (List.getLast_mem reported)
    simp [estimated, ends, lastLan]
  unfold connection
  dsimp only
  rw [distinct_eq_card]
  simp only [same, Bool.and_eq_true, decide_eq_true_eq]

end WanLog

namespace Activity

variable {activity next : Activity} {packet : Packet}

/-- Whether an introduced address is recorded at all. -/
def recordsAddress (activity : Activity) (address : Address) : Bool :=
  !(address.isEmpty || address == activity.lan || address == activity.wan)

theorem foldl_discover_eq (activity : Activity) (responder : Peer) (addresses : List Address) :
    addresses.foldl (fun activity address => activity.discover responder address) activity =
      activity.onRegistry (·.discoverAll responder (addresses.filter activity.recordsAddress)
        activity.service) := by
  induction addresses generalizing activity with
  | nil => rfl
  | cons address others ih =>
      rw [List.foldl_cons, ih, List.filter_cons]
      unfold discover recordsAddress
      by_cases own :
          (address.isEmpty || address == activity.lan || address == activity.wan) = true
      · rw [if_pos own, own]
        rfl
      · rw [if_neg own]
        simp only [Bool.not_eq_true] at own
        rw [own]
        rfl

theorem takeResponse_eq (activity : Activity) (peer : Peer) (response : IntroductionResponse) :
    activity.takeResponse peer response =
      let learned := activity.learnWan peer.address response.destination
      let responder := peer.reporting response.sourceLan response.sourceWan
      (learned.verify responder).onRegistry (·.discoverAll responder
        ((candidates learned.lan learned.wan response.introLan response.introWan).filter
          learned.recordsAddress) learned.service) :=
  foldl_discover_eq _ _ _

theorem learnWan_eq (activity : Activity) (sender wan : Address) [Decidable sender.IsOutside] :
    activity.learnWan sender wan =
      if sender.IsOutside then activity.logWan sender activity.lan wan else activity := by
  unfold learnWan
  by_cases outside : sender.IsOutside
  · rw [if_pos outside, sender.isOutside_iff.2 outside, if_neg Bool.false_ne_true]
  · rw [if_neg outside, if_pos]
    rw [← Bool.not_eq_false, sender.isOutside_iff]
    exact outside

/-- The LAN address stays, and the log gains at most one report from outside. -/
structure Learns (activity next : Activity) : Prop where
  lan : next.lan = activity.lan
  wanLog : next.known.wanLog = activity.known.wanLog ∨
    ∃ report : WanReport, report.lan = activity.lan ∧ report.sender.IsOutside ∧
      next.known.wanLog = activity.known.wanLog.add report

theorem learns_takeResponse (activity : Activity) (peer : Peer) (response : IntroductionResponse) :
    Learns activity (activity.takeResponse peer response) := by
  have learned : Learns activity (activity.learnWan peer.address response.destination) := by
    classical
    rw [learnWan_eq]
    split
    · rename_i outside
      exact ⟨rfl, .inr ⟨⟨activity.moment.now, peer.address, activity.lan, response.destination⟩,
        rfl, outside, rfl⟩⟩
    · exact ⟨rfl, .inl rfl⟩
  rw [takeResponse_eq]
  exact ⟨learned.lan, learned.wanLog⟩

theorem learns_answerRequest (activity : Activity) (peer : Peer) (request : IntroductionRequest)
    (pick : Nat) : Learns activity (activity.answerRequest peer request pick) := by
  rw [answerRequest_eq]
  split
  · exact ⟨rfl, .inl rfl⟩
  · dsimp only
    generalize (activity.verify (peer.reporting request.sourceLan
      request.sourceWan)).introduction? _ pick = introduced
    cases introduced <;> exact ⟨rfl, .inl rfl⟩

theorem learns_react {reaction : Reaction} {messageId : UInt8} {pick : Nat}
    (reacted : activity.react reaction messageId packet pick = .ok next) :
    Learns activity next := by
  cases reaction with
  | membership message =>
      cases message with
      | introductionRequest =>
          obtain ⟨signed, -, ⟨⟩⟩ := bind_eq_ok_iff.1 reacted
          have answered := (activity.hear signed).learns_answerRequest signed.peer signed.payload pick
          exact ⟨answered.lan, answered.wanLog⟩
      | introductionResponse =>
          obtain ⟨signed, -, ⟨⟩⟩ := bind_eq_ok_iff.1 reacted
          have taken := (activity.hear signed).learns_takeResponse signed.peer signed.payload
          exact ⟨taken.lan, taken.wanLog⟩
      | puncture =>
          obtain ⟨signed, -, ⟨⟩⟩ := bind_eq_ok_iff.1 reacted
          exact ⟨rfl, .inl rfl⟩
      | punctureRequest =>
          obtain ⟨unsigned, -, ⟨⟩⟩ := bind_eq_ok_iff.1 reacted
          exact ⟨rfl, .inl rfl⟩
  | application handler =>
      cases handler with
      | rejects cause => cases reacted
      | reads protection format =>
          cases protection <;>
            · obtain ⟨read, -, ⟨⟩⟩ := bind_eq_ok_iff.1 reacted
              exact ⟨rfl, .inl rfl⟩

theorem learns_receive (activity : Activity) (packet : Packet) (pick : Nat) :
    Learns activity (activity.receive packet pick) := by
  unfold receive
  split
  · dsimp only
    split
    · exact ⟨rfl, .inl rfl⟩
    · split
      · exact ⟨rfl, .inl rfl⟩
      · split
        · rename_i reacted
          have learned := learns_react reacted
          exact ⟨learned.lan, learned.wanLog⟩
        · exact ⟨rfl, .inl rfl⟩
  · exact ⟨rfl, .inl rfl⟩

/-- What an overlay does of its own accord leaves the estimates alone. -/
theorem keptByInitiatives_estimates (start : Activity) :
    KeptByInitiatives fun activity =>
      activity.lan = start.lan ∧ activity.known.wanLog = start.known.wanLog where
  walkTo _ _ before := before
  noteBootstrap _ before := before
  forgetAddress _ _ before _ := before

/-- Every report was made from outside, under the LAN address of now. -/
def Coherent (activity : Activity) : Prop :=
  activity.known.wanLog.Reports fun report =>
    report.lan = activity.lan ∧ report.sender.IsOutside

theorem Coherent.learns (coherent : Coherent activity) (learns : Learns activity next) :
    Coherent next := by
  unfold Coherent
  rw [learns.lan]
  rcases learns.wanLog with same | ⟨report, under, outside, grown⟩
  · rw [same]
    exact coherent
  · rw [grown]
    exact WanLog.Reports.add coherent ⟨under, outside⟩

theorem Coherent.adoptLan (coherent : Coherent activity) (lan : Address) :
    Coherent (activity.adoptLan lan) := by
  unfold Activity.adoptLan
  split
  · exact coherent
  · intro report reported
    cases reported

theorem Coherent.undergo (coherent : Coherent activity) (moment : Moment) (event : Event) :
    Coherent (activity.undergo moment event) := by
  have atMoment : Coherent { activity with moment } := coherent
  cases event with
  | receives packet pick => exact atMoment.learns (learns_receive _ packet pick)
  | acts initiative =>
      obtain ⟨lan, wanLog⟩ := (keptByInitiatives_estimates
        { activity with moment }).takeInitiative ⟨rfl, rfl⟩ initiative
      exact atMoment.learns ⟨lan, .inl wanLog⟩
  | adoptsLan lan => exact atMoment.adoptLan lan

theorem Coherent.live (coherent : Coherent activity) (life : List (Moment × Event)) :
    Coherent (activity.live life) := by
  induction life generalizing activity with
  | nil => exact coherent
  | cons first later ih => exact ih (coherent.undergo first.1 first.2)

/-- What the log says of an overlay that has it for itself. -/
structure Classified (activity : Activity) : Prop where
  lan : ∀ report ∈ activity.known.wanLog.reports, report.lan = activity.lan
  sender : ∀ report ∈ activity.known.wanLog.reports, report.sender.IsOutside
  connection : activity.known.wanLog.connection =
    if activity.known.wanLog.reports ≠ [] ∧ activity.wan = activity.lan then .reachable
    else if 1 < activity.known.wanLog.reports.length ∧
        activity.known.wanLog.reports.length <
          10 * ((activity.known.wanLog.reports.map (·.wan)).toFinset.card - 1) then .symmetric
    else .unknown

/-- Whatever an overlay receives and does, and whichever LAN addresses it adopts, a log that was
empty and that nobody else uses stays coherent, and tells the connection. -/
theorem classified_live (overlay : Overlay) (registry : Registry) (moment : Moment)
    (life : List (Moment × Event)) :
    Classified ((Activity.start overlay ⟨registry, .empty⟩ moment).live life) := by
  have empty : Coherent (Activity.start overlay ⟨registry, .empty⟩ moment) := by
    intro report reported
    cases reported
  have coherent := empty.live life
  exact
    { lan := fun report reported => (coherent report reported).1
      sender := fun report reported => (coherent report reported).2
      connection := WanLog.connection_of_lan fun report reported => (coherent report reported).1 }

end Activity

end PeerDiscovery
