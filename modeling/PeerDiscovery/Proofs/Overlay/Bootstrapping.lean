import PeerDiscovery.Proofs.Overlay.GlobalTimes
import PeerDiscovery.Proofs.Overlay.Pacing

/-!
# Asking the bootstrap addresses

An overlay asks its bootstrap addresses when it is told to, when it seeks an introduction and
knows no peer, and in the steps of its random walks.  Each time it either asks all of them or
leaves everything as it is, and only then it notes the time.  So the bootstrap addresses are asked
at most once per interval, and as soon as they may be, whatever else is asked of the overlay.
-/

namespace PeerDiscovery

def Overlay.timeless (overlay : Overlay) : Overlay := { overlay with globalTime := 0 }

namespace Activity

variable {activity asking next : Activity} {operation : Operation}

def inquiry (activity : Activity) (destination : Address) : Datagram :=
  ⟨destination,
    (activity.claimTime.overlay.draft MembershipMessage.introductionRequest.id true).frame
      (activity.claimTime.request destination []).encode⟩

/-- The requests that an overlay sends to some addresses, the first one first. -/
def inquiries (activity : Activity) : List Address → List Datagram
  | [] => []
  | destination :: others => activity.inquiry destination :: activity.claimTime.inquiries others

/-- What decides whether the bootstrap addresses may be asked. -/
def schedule (activity : Activity) : OverlaySettings × Option Instant :=
  (activity.overlay.settings, activity.overlay.lastBootstrap)

/-- The activity that an operation comes to before it tries to ask the bootstrap addresses, if it
does. -/
def asking? (activity : Activity) : Operation → Option Activity
  | .happens (.acts .bootstrap) => some activity
  | .happens (.acts (.seekIntroduction _)) => if activity.peers.isEmpty then some activity else none
  | .happens (.acts (.step walk draw pick)) =>
    if walk.completes ⟨activity, draw, pick⟩ && (walk.expire activity).peers.isEmpty then
      some (walk.expire activity)
    else none
  | _ => none

/-- Whether an operation asks some bootstrap address. -/
def fansOut (activity : Activity) (operation : Operation) : Bool :=
  (activity.asking? operation).any fun asking => asking.bootstrap.sent ≠ asking.sent

/-- When the bootstrap addresses were asked in a course of operations. -/
def fanOuts (activity : Activity) : List (Moment × Operation) → List Instant
  | [] => []
  | (moment, operation) :: later =>
    (if { activity with moment }.fansOut operation then [moment.now] else []) ++
      ({ activity with moment }.perform operation).2.fanOuts later

/-- Requests tell of the overlay and of the log of WAN addresses, and of nothing else. -/
theorem inquiries_congr (first second : Activity)
    (overlay : { first.overlay with lastBootstrap := none } =
      { second.overlay with lastBootstrap := none })
    (wanLog : first.known.wanLog = second.known.wanLog) (destinations : List Address) :
    first.inquiries destinations = second.inquiries destinations := by
  induction destinations generalizing first second with
  | nil => rfl
  | cons destination others ih =>
      have head := congrArg₂ (fun overlay wanLog =>
        (start overlay ⟨.empty, wanLog⟩ first.moment).inquiry destination) overlay wanLog
      have after := congrArg Overlay.claimTime overlay
      have rest : first.claimTime.inquiries others = second.claimTime.inquiries others :=
        ih first.claimTime second.claimTime after wanLog
      exact congrArg₂ List.cons head rest

theorem inquiries_onRegistry (activity : Activity) (change : Registry → Registry)
    (destinations : List Address) :
    (activity.onRegistry change).inquiries destinations = activity.inquiries destinations :=
  inquiries_congr (activity.onRegistry change) activity rfl rfl destinations

theorem destination_inquiries (activity : Activity) (destinations : List Address) :
    (activity.inquiries destinations).map (·.destination) = destinations := by
  induction destinations generalizing activity with
  | nil => rfl
  | cons destination others ih => exact congrArg (destination :: ·) (ih activity.claimTime)

theorem carries_inquiries {destinations : List Address} {datagram : Datagram}
    (listed : datagram ∈ activity.inquiries destinations) (source : Address) :
    (⟨source, datagram.data⟩ : Packet).Carries activity.service .introductionRequest := by
  induction destinations generalizing activity with
  | nil => cases listed
  | cons destination others ih =>
      rcases List.mem_cons.1 listed with rfl | later
      · have whole : (⟨source, (activity.inquiry destination).data⟩ : Packet).data =
            (activity.claimTime.overlay.draft MembershipMessage.introductionRequest.id true).frame
              (activity.claimTime.request destination []).encode := rfl
        exact (Packet.Draft.carries_frame_iff whole).2 ⟨rfl, rfl⟩
      · have carried := ih later
        exact carried

theorem inquiries_eq_nil_iff (activity : Activity) (destinations : List Address) :
    activity.inquiries destinations = [] ↔ destinations = [] := by
  rw [← List.map_eq_nil_iff (f := Datagram.destination), destination_inquiries]

theorem sent_walks (activity : Activity) (destinations : List Address) :
    (destinations.foldl walkTo activity).sent =
      activity.sent ++ activity.inquiries destinations := by
  induction destinations generalizing activity with
  | nil => exact (List.append_nil _).symm
  | cons destination others ih =>
      have rest : (activity.walkTo destination).inquiries others =
          activity.claimTime.inquiries others :=
        inquiries_congr (activity.walkTo destination) activity.claimTime rfl rfl others
      rw [List.foldl_cons, ih, rest, walkTo_eq, sent_sendTo, List.append_assoc]
      rfl

theorem schedule_walkTo (activity : Activity) (destination : Address) :
    (activity.walkTo destination).schedule = activity.schedule := rfl

theorem schedule_walks (activity : Activity) (destinations : List Address) :
    (destinations.foldl walkTo activity).schedule = activity.schedule := by
  induction destinations generalizing activity with
  | nil => rfl
  | cons destination others ih => exact (ih _).trans (activity.schedule_walkTo destination)

theorem bootstrapIsDue_iff (activity : Activity) :
    activity.bootstrapIsDue = true ↔ activity.moment.isOpen = true ∧
      ∀ last, activity.overlay.lastBootstrap = some last →
        activity.overlay.settings.bootstrapInterval ≤ last.elapsed activity.moment.now := by
  rw [bootstrapIsDue, Bool.and_eq_true]
  cases activity.overlay.lastBootstrap <;> simp

theorem bootstrap_eq (activity : Activity) :
    activity.bootstrap = if activity.bootstrapIsDue then
      activity.overlay.settings.bootstrap.foldl walkTo activity.noteBootstrap
    else activity := rfl

theorem sent_bootstrap (activity : Activity) :
    activity.bootstrap.sent = if activity.bootstrapIsDue then
      activity.sent ++ activity.inquiries activity.overlay.settings.bootstrap
    else activity.sent := by
  rw [bootstrap_eq]
  split
  · have same : activity.noteBootstrap.inquiries activity.overlay.settings.bootstrap =
        activity.inquiries activity.overlay.settings.bootstrap :=
      inquiries_congr activity.noteBootstrap activity rfl rfl _
    rw [sent_walks, same]
    rfl
  · rfl

theorem schedule_bootstrap (activity : Activity) :
    activity.bootstrap.schedule = (activity.overlay.settings,
      if activity.bootstrapIsDue then some activity.moment.now
      else activity.overlay.lastBootstrap) := by
  rw [bootstrap_eq]
  split
  · exact schedule_walks _ _
  · rfl

theorem seekIntroduction_of_peers_eq_nil (alone : activity.peers = []) (draw : Draw) :
    activity.seekIntroduction draw = activity.bootstrap := by
  rw [seekIntroduction, alone]
  rfl

theorem schedule_seekIntroduction (accompanied : activity.peers ≠ []) (draw : Draw) :
    (activity.seekIntroduction draw).schedule = activity.schedule := by
  have some : (activity.peers.map (·.address)).isEmpty = false := by
    simpa using accompanied
  rw [seekIntroduction, some]
  dsimp only
  split
  · contradiction
  · split <;> rfl

theorem timeless_answerRequest (activity : Activity) (peer : Peer) (request : IntroductionRequest)
    (pick : Nat) :
    (activity.answerRequest peer request pick).overlay.timeless = activity.overlay.timeless := by
  rw [answerRequest_eq]
  split
  · rfl
  · dsimp only
    generalize (activity.verify (peer.reporting request.sourceLan
      request.sourceWan)).introduction? _ pick = introduced
    cases introduced <;> rfl

theorem timeless_takeResponse (activity : Activity) (peer : Peer)
    (response : IntroductionResponse) :
    (activity.takeResponse peer response).overlay.timeless = activity.overlay.timeless := by
  have learned : (activity.learnWan peer.address response.destination).overlay =
      activity.overlay := by
    unfold learnWan
    split <;> rfl
  rw [takeResponse_eq]
  exact congrArg Overlay.timeless learned

theorem timeless_react {reaction : Reaction} {messageId : UInt8} {packet : Packet} {pick : Nat}
    (reacted : activity.react reaction messageId packet pick = .ok next) :
    next.overlay.timeless = activity.overlay.timeless := by
  cases reaction with
  | membership message =>
      cases message with
      | introductionRequest =>
          obtain ⟨signed, -, ⟨⟩⟩ := bind_eq_ok_iff.1 reacted
          exact timeless_answerRequest (activity.hear signed) signed.peer signed.payload pick
      | introductionResponse =>
          obtain ⟨signed, -, ⟨⟩⟩ := bind_eq_ok_iff.1 reacted
          exact timeless_takeResponse (activity.hear signed) signed.peer signed.payload
      | puncture =>
          obtain ⟨signed, -, ⟨⟩⟩ := bind_eq_ok_iff.1 reacted
          rfl
      | punctureRequest =>
          obtain ⟨unsigned, -, ⟨⟩⟩ := bind_eq_ok_iff.1 reacted
          rfl
  | application handler =>
      cases handler with
      | rejects cause => cases reacted
      | reads protection format =>
          cases protection <;>
            · obtain ⟨read, -, ⟨⟩⟩ := bind_eq_ok_iff.1 reacted
              rfl

/-- A packet changes nothing of an overlay but its clock. -/
theorem timeless_receive (activity : Activity) (packet : Packet) (pick : Nat) :
    (activity.receive packet pick).overlay.timeless = activity.overlay.timeless := by
  unfold receive
  split
  · dsimp only
    split
    · rfl
    · split
      · rfl
      · split
        · rename_i reacted
          have same := timeless_react reacted
          exact same
        · rfl
  · rfl

theorem schedule_of_timeless (same : next.overlay.timeless = activity.overlay.timeless) :
    next.schedule = activity.schedule := by
  have both := congrArg (fun overlay => (overlay.settings, overlay.lastBootstrap)) same
  exact both

/-- A step either tries to ask the bootstrap addresses or leaves the schedule alone. -/
theorem schedule_step {walk : RandomWalk} {draw : Draw} {pick : Nat}
    (silent : activity.asking? (.happens (.acts (.step walk draw pick))) = none) :
    (walk.step activity draw pick).2.schedule = activity.schedule := by
  have stride := walk.stride_step activity draw pick
  have accompanied : walk.completes ⟨activity, draw, pick⟩ = true →
      (walk.expire activity).peers ≠ [] := by
    intro completed alone
    rw [asking?, completed, alone] at silent
    cases silent
  generalize walk.step activity draw pick = taken at stride
  cases stride with
  | rests => rfl
  | waits => rfl
  | asks completed => exact schedule_seekIntroduction (accompanied completed) draw
  | walks address completed =>
      have sought := schedule_seekIntroduction (accompanied completed) draw
      exact (schedule_walkTo _ address).trans sought

theorem step_of_peers_eq_nil {walk : RandomWalk} {draw : Draw} {pick : Nat}
    (completed : walk.completes ⟨activity, draw, pick⟩ = true)
    (alone : (walk.expire activity).peers = []) :
    (walk.step activity draw pick).2 = (walk.expire activity).bootstrap ∨
      ∃ address, (walk.step activity draw pick).2 =
        (walk.expire activity).bootstrap.walkTo address := by
  have stride := walk.stride_step activity draw pick
  rw [← seekIntroduction_of_peers_eq_nil alone draw]
  generalize walk.step activity draw pick = taken at stride
  cases stride with
  | rests satisfied =>
      rw [RandomWalk.not_completes_of_isSatisfied satisfied] at completed
      cases completed
  | waits held => exact Bool.noConfusion (held.symm.trans completed)
  | asks => exact .inl rfl
  | walks address => exact .inr ⟨address, rfl⟩

theorem schedule_perform_of_silent (silent : activity.asking? operation = none) :
    (activity.perform operation).2.schedule = activity.schedule := by
  cases operation with
  | happens event =>
      cases event with
      | receives packet pick => exact schedule_of_timeless (timeless_receive activity packet pick)
      | adoptsLan lan =>
          change (activity.adoptLan lan).schedule = activity.schedule
          unfold adoptLan
          split <;> rfl
      | acts initiative =>
          cases initiative with
          | walkTo destination => rfl
          | bootstrap => cases silent
          | seekIntroduction draw =>
              refine schedule_seekIntroduction (fun alone => ?_) draw
              rw [asking?, alone] at silent
              cases silent
          | seekIntroductionFrom peer => rfl
          | step walk draw pick => exact schedule_step silent
  | handles messageId handler =>
      rw [perform, schedule, Overlay.withHandler]
      split <;> rfl
  | _ => rfl

/-- An operation that tries to ask the bootstrap addresses has changed the registry at most, and
afterwards walks to one address at most. -/
theorem perform_of_asking (asks : activity.asking? operation = some asking) :
    ∃ change, asking = activity.onRegistry change ∧
      ((activity.perform operation).2 = asking.bootstrap ∨
        ∃ address, (activity.perform operation).2 = asking.bootstrap.walkTo address) := by
  unfold asking? at asks
  split at asks
  · cases asks
    exact ⟨id, rfl, .inl rfl⟩
  · rename_i draw
    split at asks
    · rename_i alone
      cases asks
      rw [List.isEmpty_iff] at alone
      exact ⟨id, rfl, .inl (seekIntroduction_of_peers_eq_nil alone draw)⟩
    · cases asks
  · rename_i walk draw pick
    split at asks
    · rename_i both
      cases asks
      rw [Bool.and_eq_true, List.isEmpty_iff] at both
      exact ⟨_, rfl, step_of_peers_eq_nil both.1 both.2⟩
    · cases asks
  · cases asks

theorem schedule_perform_of_asking (asks : activity.asking? operation = some asking) :
    (activity.perform operation).2.schedule = (activity.overlay.settings,
      if activity.bootstrapIsDue then some activity.moment.now
      else activity.overlay.lastBootstrap) := by
  obtain ⟨change, rfl, next | ⟨address, next⟩⟩ := perform_of_asking asks
  · rw [next, schedule_bootstrap]
    rfl
  · rw [next]
    exact (activity.onRegistry change).schedule_bootstrap

theorem settings_perform (activity : Activity) (operation : Operation) :
    (activity.perform operation).2.overlay.settings = activity.overlay.settings := by
  cases asks : activity.asking? operation with
  | none => exact congrArg Prod.fst (schedule_perform_of_silent asks)
  | some asking => exact congrArg Prod.fst (schedule_perform_of_asking asks)

theorem fansOut_iff (activity : Activity) (operation : Operation) :
    activity.fansOut operation = true ↔ (activity.asking? operation).isSome = true ∧
      activity.bootstrapIsDue = true ∧ activity.overlay.settings.bootstrap ≠ [] := by
  unfold fansOut
  cases asks : activity.asking? operation with
  | none => simp
  | some asking =>
      obtain ⟨change, rfl, -⟩ := perform_of_asking asks
      have same : (activity.onRegistry change).bootstrapIsDue = activity.bootstrapIsDue := rfl
      rw [Option.any_some, decide_eq_true_eq, sent_bootstrap, same]
      split
      · rename_i due
        rw [inquiries_onRegistry, ne_eq, List.append_right_eq_self, inquiries_eq_nil_iff]
        exact ⟨fun listed => ⟨rfl, due, listed⟩, fun all => all.2.2⟩
      · rename_i early
        exact ⟨fun differs => absurd rfl differs, fun all => absurd all.2.1 early⟩

theorem sent_perform_of_fansOut (fanned : activity.fansOut operation = true) :
    ∃ own : List Datagram, own.length ≤ 1 ∧ (activity.perform operation).2.sent =
      activity.sent ++ activity.inquiries activity.overlay.settings.bootstrap ++ own := by
  obtain ⟨asks, due, -⟩ := (fansOut_iff activity operation).1 fanned
  obtain ⟨asking, asks⟩ := Option.isSome_iff_exists.1 asks
  obtain ⟨change, rfl, next⟩ := perform_of_asking asks
  have asked : (activity.onRegistry change).bootstrap.sent =
      activity.sent ++ activity.inquiries activity.overlay.settings.bootstrap := by
    have alsoDue : (activity.onRegistry change).bootstrapIsDue = true := due
    rw [sent_bootstrap, if_pos alsoDue, inquiries_onRegistry]
    rfl
  rcases next with next | ⟨address, next⟩
  · exact ⟨[], Nat.zero_le 1, by rw [next, asked, List.append_nil]⟩
  · refine ⟨[(activity.onRegistry change).bootstrap.inquiry address], Nat.le_refl 1, ?_⟩
    rw [next, walkTo_eq, sent_sendTo, ← asked]
    rfl

/-- An operation that fans out notes the time, and no other one does. -/
theorem lastBootstrap_perform (activity : Activity)
    (configured : activity.overlay.settings.bootstrap ≠ []) (operation : Operation) :
    (activity.perform operation).2.overlay.lastBootstrap =
      if activity.fansOut operation then some activity.moment.now
      else activity.overlay.lastBootstrap := by
  have fans := activity.fansOut_iff operation
  cases asks : activity.asking? operation with
  | none =>
      rw [asks] at fans
      rw [if_neg fun fanned => Bool.noConfusion (fans.1 fanned).1]
      exact congrArg Prod.snd (schedule_perform_of_silent asks)
  | some asking =>
      rw [asks] at fans
      refine (congrArg Prod.snd (schedule_perform_of_asking asks)).trans ?_
      have same : activity.fansOut operation = true ↔ activity.bootstrapIsDue = true :=
        fans.trans ⟨fun all => all.2.1, fun due => ⟨rfl, due, configured⟩⟩
      simp only [same]

/-- When the bootstrap addresses were asked, the last time before a course included. -/
def asked (activity : Activity) (operations : List (Moment × Operation)) : List Instant :=
  activity.overlay.lastBootstrap.toList ++ activity.fanOuts operations

theorem settings_course (activity : Activity) (operations : List (Moment × Operation)) :
    (activity.course operations).2.overlay.settings = activity.overlay.settings := by
  induction operations generalizing activity with
  | nil => rfl
  | cons first later ih =>
      exact (ih _).trans (settings_perform { activity with moment := first.1 } first.2)

theorem fanOuts_eq_nil (unconfigured : activity.overlay.settings.bootstrap = [])
    (operations : List (Moment × Operation)) : activity.fanOuts operations = [] := by
  induction operations generalizing activity with
  | nil => rfl
  | cons first later ih =>
      obtain ⟨moment, operation⟩ := first
      have same := settings_perform { activity with moment } operation
      have quiet : ¬{ activity with moment }.fansOut operation = true := fun fanned =>
        ((fansOut_iff _ _).1 fanned).2.2 unconfigured
      rw [fanOuts, if_neg quiet, List.nil_append]
      exact ih (by rw [same]; exact unconfigured)

theorem asked_cons (configured : activity.overlay.settings.bootstrap ≠ []) (moment : Moment)
    (operation : Operation) (later : List (Moment × Operation)) :
    activity.asked ((moment, operation) :: later) =
      (if { activity with moment }.fansOut operation then activity.overlay.lastBootstrap.toList
      else []) ++ ({ activity with moment }.perform operation).2.asked later := by
  have noted := lastBootstrap_perform { activity with moment } configured operation
  rw [asked, asked, noted, fanOuts]
  split <;> rfl

theorem course_cons (activity : Activity) (moment : Moment) (operation : Operation)
    (later : List (Moment × Operation)) :
    (activity.course ((moment, operation) :: later)).2 =
      (({ activity with moment }.perform operation).2.course later).2 := rfl

theorem lastBootstrap_course (activity : Activity)
    (configured : activity.overlay.settings.bootstrap ≠ [])
    (operations : List (Moment × Operation)) :
    (activity.course operations).2.overlay.lastBootstrap =
      (activity.asked operations).getLast? := by
  induction operations generalizing activity with
  | nil =>
      change activity.overlay.lastBootstrap = _
      rw [asked, fanOuts, List.append_nil]
      cases activity.overlay.lastBootstrap <;> rfl
  | cons first later ih =>
      obtain ⟨moment, operation⟩ := first
      have noted := lastBootstrap_perform { activity with moment } configured operation
      have same := settings_perform { activity with moment } operation
      rw [asked_cons configured, List.getLast?_append, course_cons]
      generalize ({ activity with moment }.perform operation).2 = next at noted same ⊢
      have remembered := ih next (by rw [same]; exact configured)
      rw [remembered]
      split
      · -- the course goes on from the noted time, so it does not matter what was noted before
        rename_i fanned
        rw [if_pos fanned] at noted
        rw [asked, noted, Option.toList_some, List.singleton_append, List.getLast?_cons]
        rfl
      · exact Option.or_none.symm

theorem spaced_asked (activity : Activity)
    (configured : activity.overlay.settings.bootstrap ≠ [])
    (operations : List (Moment × Operation)) :
    (activity.asked operations).Pairwise fun first second =>
      activity.overlay.settings.bootstrapInterval ≤ first.elapsed second := by
  induction operations generalizing activity with
  | nil =>
      rw [asked, fanOuts, List.append_nil]
      cases activity.overlay.lastBootstrap <;> simp
  | cons first later ih =>
      obtain ⟨moment, operation⟩ := first
      have noted := lastBootstrap_perform { activity with moment } configured operation
      have same := settings_perform { activity with moment } operation
      rw [asked_cons configured]
      generalize ({ activity with moment }.perform operation).2 = next at noted same ⊢
      have apart := ih next (by rw [same]; exact configured)
      rw [same] at apart
      split
      · rename_i fanned
        obtain ⟨-, due, -⟩ := (fansOut_iff _ _).1 fanned
        have since := ((bootstrapIsDue_iff _).1 due).2
        rw [if_pos fanned] at noted
        refine List.pairwise_append.2 ⟨?_, apart, ?_⟩
        · cases activity.overlay.lastBootstrap <;> simp
        · -- it is enough to keep the distance from the time that is noted now
          intro last stamped time listed
          have toHere := since last (Option.mem_toList.1 stamped)
          rw [asked, noted, Option.toList_some, List.singleton_append] at apart listed
          rcases List.mem_cons.1 listed with rfl | listed
          · exact toHere
          · exact RandomWalk.le_elapsed_of_le_of_le toHere
              ((List.pairwise_cons.1 apart).1 time listed)
      · exact apart

/-- What asking the bootstrap addresses comes to, if they were last asked at some time. -/
structure AsksInTime (activity : Activity) (last : Option Instant) : Prop where
  closed : activity.moment.isOpen = false → activity.bootstrap = activity
  early : ∀ time, last = some time →
    time.elapsed activity.moment.now < activity.overlay.settings.bootstrapInterval →
      activity.bootstrap.sent = activity.sent
  due : activity.moment.isOpen = true →
    (∀ time, last = some time →
      activity.overlay.settings.bootstrapInterval ≤ time.elapsed activity.moment.now) →
    activity.bootstrap.sent =
      activity.sent ++ activity.inquiries activity.overlay.settings.bootstrap
  destinations : (activity.inquiries activity.overlay.settings.bootstrap).map (·.destination) =
    activity.overlay.settings.bootstrap
  requests : ∀ datagram ∈ activity.inquiries activity.overlay.settings.bootstrap, ∀ source,
    (⟨source, datagram.data⟩ : Packet).Carries activity.service .introductionRequest
  seeks : activity.peers = [] → ∀ draw, activity.seekIntroduction draw = activity.bootstrap
  /-- So does any other operation that asks them; a step may walk to one more address. -/
  fansOut : ∀ operation, activity.fansOut operation = true →
    ∃ own : List Datagram, own.length ≤ 1 ∧ (activity.perform operation).2.sent =
      activity.sent ++ activity.inquiries activity.overlay.settings.bootstrap ++ own

theorem asksInTime_of_lastBootstrap {last : Option Instant}
    (noted : activity.overlay.settings.bootstrap ≠ [] → activity.overlay.lastBootstrap = last) :
    AsksInTime activity last where
  closed shut := by
    have notDue : ¬activity.bootstrapIsDue = true := fun due => by
      rw [((bootstrapIsDue_iff _).1 due).1] at shut
      cases shut
    rw [bootstrap_eq, if_neg notDue]
  early time stamped soon := by
    rw [sent_bootstrap]
    split
    · rename_i due
      by_cases configured : activity.overlay.settings.bootstrap = []
      · rw [configured]
        exact List.append_nil _
      · have late := ((bootstrapIsDue_iff _).1 due).2 time ((noted configured).trans stamped)
        exact absurd soon (Nat.not_lt.2 late)
    · rfl
  due opened late := by
    rw [sent_bootstrap]
    split
    · rfl
    · rename_i notDue
      by_cases configured : activity.overlay.settings.bootstrap = []
      · rw [configured]
        exact (List.append_nil _).symm
      · rw [← noted configured] at late
        exact absurd ((bootstrapIsDue_iff _).2 ⟨opened, late⟩) notDue
  destinations := activity.destination_inquiries _
  requests _ listed := carries_inquiries listed
  seeks := seekIntroduction_of_peers_eq_nil
  fansOut _ := sent_perform_of_fansOut

/-- How the bootstrap addresses are asked in a course of operations and right after it. -/
structure RateLimited (start : Activity) (operations : List (Moment × Operation)) : Prop where
  keeps : (start.course operations).2.overlay.settings = start.overlay.settings
  spaced : (start.asked operations).Pairwise fun first second =>
    start.overlay.settings.bootstrapInterval ≤ first.elapsed second
  next : ∀ moment,
    AsksInTime { (start.course operations).2 with moment } (start.asked operations).getLast?

/-- The bootstrap addresses are asked at most once per interval, and as soon as they may be,
whatever else is asked of the overlay and whenever the transport is open. -/
theorem rateLimited_course (start : Activity) (operations : List (Moment × Operation)) :
    RateLimited start operations where
  keeps := start.settings_course operations
  spaced := by
    by_cases configured : start.overlay.settings.bootstrap = []
    · rw [asked, fanOuts_eq_nil configured, List.append_nil]
      cases start.overlay.lastBootstrap <;> simp
    · exact start.spaced_asked configured operations
  next moment := by
    refine asksInTime_of_lastBootstrap fun configured => ?_
    have kept : (start.course operations).2.overlay.settings.bootstrap =
        start.overlay.settings.bootstrap :=
      congrArg OverlaySettings.bootstrap (start.settings_course operations)
    exact start.lastBootstrap_course (kept ▸ configured) operations

end Activity

end PeerDiscovery
