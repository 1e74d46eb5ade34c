import PeerDiscovery.Proofs.Overlay.Acceptance
import PeerDiscovery.Proofs.Overlay.Authentication

/-!
# Clocks over the life of an overlay

An overlay has a registry for itself, receives packets of any kind in any order, and
walks, sends and loads in between.  The clock of a member is then the greatest global
time of the packets of the member that were accepted, from the packet that made it
verified on.

The invariant says of each clock which packet the record goes back to.  Whatever comes
next either is accepted as a packet of the member, or leaves its clock as it is.
-/

namespace PeerDiscovery

namespace Overlay

/-- The greatest global time of the packets that are accepted as a member's. -/
structure Greatest (overlay : Overlay) (member : MemberId) (packets : List Packet)
    (clock : UInt64) : Prop where
  attained : ∃ packet ∈ packets, overlay.Accepts packet member clock
  bound : ∀ packet ∈ packets, ∀ time, overlay.Accepts packet member time → time ≤ clock

namespace Greatest

variable {overlay : Overlay} {member : MemberId} {packets : List Packet} {clock : UInt64}

theorem first {packet : Packet} {time : UInt64}
    (accepted : overlay.Accepts packet member time) :
    Greatest overlay member [packet] time where
  attained := ⟨packet, List.mem_singleton_self packet, accepted⟩
  bound other listed otherTime otherAccepted := by
    cases List.mem_singleton.1 listed
    exact (accepted.unique otherAccepted).2 ▸ UInt64.le_refl _

theorem append_unheeded (greatest : Greatest overlay member packets clock)
    {more : List Packet}
    (unheeded : ∀ packet ∈ more, ∀ time, ¬overlay.Accepts packet member time) :
    Greatest overlay member (packets ++ more) clock where
  attained := by
    obtain ⟨packet, listed, accepted⟩ := greatest.attained
    exact ⟨packet, List.mem_append_left more listed, accepted⟩
  bound packet listed time accepted := by
    rcases List.mem_append.1 listed with before | new
    · exact greatest.bound packet before time accepted
    · exact absurd accepted (unheeded packet new time)

theorem append_accepted (greatest : Greatest overlay member packets clock) {packet : Packet}
    {time : UInt64} (accepted : overlay.Accepts packet member time) :
    Greatest overlay member (packets ++ [packet]) (max clock time) where
  attained := by
    by_cases newer : clock ≤ time
    · refine ⟨packet, List.mem_append_right packets (List.mem_singleton_self packet), ?_⟩
      rw [Registry.max_clock_eq, if_pos newer]
      exact accepted
    · obtain ⟨other, listed, otherAccepted⟩ := greatest.attained
      refine ⟨other, List.mem_append_left _ listed, ?_⟩
      rw [Registry.max_clock_eq, if_neg newer]
      exact otherAccepted
  bound other listed otherTime otherAccepted := by
    rcases List.mem_append.1 listed with before | new
    · have below := greatest.bound other before otherTime otherAccepted
      grind [Registry.max_clock_eq]
    · cases List.mem_singleton.1 new
      have same := (accepted.unique otherAccepted).2
      grind [Registry.max_clock_eq]

end Greatest

end Overlay

namespace Activity

/-- A turn in the life of an overlay that has a registry for itself. -/
inductive Turn where
  | happens (event : Event)
  | loads
  /-- A message is written, whether it is sent or not. -/
  | writes
  | sends (destination : Address) (data : Bytes)

def Turn.packet? : Turn → Option Packet
  | happens event => event.packet?
  | loads => none
  | writes => none
  | sends _ _ => none

def take (activity : Activity) (moment : Moment) (turn : Turn) : Activity :=
  match turn with
  | .happens event => activity.undergo moment event
  | .loads => { activity with moment }.load
  | .writes => { activity with moment }.claimTime
  | .sends destination data => { activity with moment }.sendTo destination data

/-- The activity after a list of turns, the first one first. -/
def pass (activity : Activity) (turns : List (Moment × Turn)) : Activity :=
  turns.foldl (fun activity (moment, turn) => activity.take moment turn) activity

def receivedIn (turns : List (Moment × Turn)) : List Packet :=
  turns.flatMap fun (_, turn) => turn.packet?.toList

/-- The clock of a member, if the member is verified. -/
def clock? (activity : Activity) (member : MemberId) : Option UInt64 :=
  activity.known.registry.clock? member

/-- A member became verified when a packet was received, and stayed so; its clock is the
greatest time of the accepted packets since then. -/
inductive Earned (start : Activity) (member : MemberId) (clock : UInt64) :
    List (Moment × Turn) → Prop where
  | since (earlier : List (Moment × Turn)) (moment : Moment) (packet : Packet) (pick : Nat)
      (later : List (Moment × Turn)) :
      (start.pass earlier).clock? member = none →
      (∀ passed, passed <+: later → ((start.pass
        (earlier ++ (moment, .happens (.receives packet pick)) :: passed)).clock? member).isSome) →
      (∃ time, start.overlay.Accepts packet member time) →
      start.overlay.Greatest member (packet :: receivedIn later) clock →
      Earned start member clock
        (earlier ++ (moment, .happens (.receives packet pick)) :: later)

/-- The clocks after some turns, and what the next turn does to them. -/
structure Clocked (start : Activity) (turns : List (Moment × Turn)) : Prop where
  earned : ∀ member clock, (start.pass turns).clock? member = some clock →
    Earned start member clock turns
  steady : ∀ moment turn member clock, (start.pass turns).clock? member = some clock →
    ∃ after, ((start.pass turns).take moment turn).clock? member = some after ∧ clock ≤ after
  /-- Every accepted packet counts, also if its handler turns the sender away. -/
  counted : ∀ moment packet pick member time clock, start.overlay.Accepts packet member time →
    (start.pass turns).clock? member = some clock →
    ((start.pass turns).take moment (.happens (.receives packet pick))).clock? member =
      some (max clock time)
  ignored : ∀ moment packet pick, (∀ member time, ¬start.overlay.Accepts packet member time) →
    ∀ member, ((start.pass turns).take moment (.happens (.receives packet pick))).clock? member =
      (start.pass turns).clock? member

theorem keptByInitiatives_quiet (start : Activity) :
    KeptByInitiatives (Alters Registry.SameClocks start) where
  walkTo activity _ before := before.bothQuiet (activity.quiet_post _ _)
  noteBootstrap _ before := ⟨before.reader, before.registry⟩
  forgetAddress activity _ before vacant :=
    before.bothQuiet ⟨rfl, activity.known.registry.sameClocks_forgetAddress vacant⟩

theorem quiet_adoptLan (activity : Activity) (lan : Address) :
    Alters Registry.SameClocks activity (activity.adoptLan lan) := by
  unfold Activity.adoptLan
  split <;> exact ⟨rfl, .refl _⟩

theorem quiet_load (activity : Activity) :
    Alters Registry.SameClocks activity activity.load := by
  refine ⟨rfl, fun member => ?_⟩
  unfold Registry.clock?
  change ((activity.overlay.settings.bootstrap.foldl Registry.blockAddress
    (activity.known.registry.blockMember activity.overlay.memberId)).verified[member]?).map
      Peer.clock = _
  rw [Registry.foldl_blockAddress_eq]
  rfl

theorem quiet_take (activity : Activity) (moment : Moment) {turn : Turn}
    (silent : turn.packet? = none) :
    Alters Registry.SameClocks activity (activity.take moment turn) := by
  have atMoment : Alters Registry.SameClocks activity { activity with moment } :=
    ⟨rfl, .refl _⟩
  cases turn with
  | happens event =>
      cases event with
      | receives packet pick => cases silent
      | acts initiative =>
          exact (keptByInitiatives_quiet activity).takeInitiative atMoment initiative
      | adoptsLan lan => exact atMoment.bothQuiet (quiet_adoptLan _ lan)
  | loads => exact atMoment.bothQuiet (quiet_load _)
  | writes => exact ⟨rfl, .refl _⟩
  | sends destination data => exact atMoment.bothQuiet (quiet_sendTo _ destination data)

theorem listens_take (activity : Activity) (moment : Moment) (packet : Packet) (pick : Nat) :
    Listens activity packet (activity.take moment (.happens (.receives packet pick))) := by
  have listens := listens_receive { activity with moment } packet pick
  cases listens with
  | accepted member time accepts advances =>
      exact .accepted member time accepts ⟨advances.reader, advances.registry⟩
  | unheeded never quiet => exact .unheeded never ⟨quiet.reader, quiet.registry⟩

theorem Turn.cases_packet (turn : Turn) :
    turn.packet? = none ∨ ∃ packet pick, turn = .happens (.receives packet pick) := by
  cases turn with
  | happens event =>
      cases event with
      | receives packet pick => exact .inr ⟨packet, pick, rfl⟩
      | acts initiative => exact .inl rfl
      | adoptsLan lan => exact .inl rfl
  | loads => exact .inl rfl
  | writes => exact .inl rfl
  | sends destination data => exact .inl rfl

theorem pass_concat (start : Activity) (turns : List (Moment × Turn)) (moment : Moment)
    (turn : Turn) :
    start.pass (turns ++ [(moment, turn)]) = (start.pass turns).take moment turn := by
  simp [pass]

theorem receivedIn_concat (turns : List (Moment × Turn)) (moment : Moment) (turn : Turn) :
    receivedIn (turns ++ [(moment, turn)]) = receivedIn turns ++ turn.packet?.toList := by
  simp [receivedIn]

/-- A member that was verified before stays verified, with the clock that one more turn
leaves. -/
theorem Earned.grow {start : Activity} {member : MemberId} {clock after : UInt64}
    {turns : List (Moment × Turn)} (earned : Earned start member clock turns) {moment : Moment}
    {turn : Turn}
    (still : ((start.pass turns).take moment turn).clock? member = some after)
    (greatest : ∀ packets, start.overlay.Greatest member packets clock →
      start.overlay.Greatest member (packets ++ turn.packet?.toList) after) :
    Earned start member after (turns ++ [(moment, turn)]) := by
  cases earned with
  | since earlier since packet pick later stranger verified accepted before =>
      rw [← pass_concat, List.append_assoc, List.cons_append] at still
      rw [List.append_assoc, List.cons_append]
      refine .since earlier since packet pick _ stranger ?_ accepted ?_
      · intro passed isPrefix
        rcases List.prefix_concat_iff.1 isPrefix with rfl | within
        · rw [still]
          rfl
        · exact verified passed within
      · rw [receivedIn_concat, ← List.cons_append]
        exact greatest _ before

theorem Earned.fresh {start : Activity} {member : MemberId} {time : UInt64}
    {turns : List (Moment × Turn)} {moment : Moment} {packet : Packet} {pick : Nat}
    (stranger : (start.pass turns).clock? member = none)
    (accepted : start.overlay.Accepts packet member time)
    (verified : ((start.pass turns).take moment (.happens (.receives packet pick))).clock? member =
      some time) :
    Earned start member time (turns ++ [(moment, .happens (.receives packet pick))]) := by
  refine .since turns moment packet pick [] stranger ?_ ⟨time, accepted⟩ (.first accepted)
  intro passed isPrefix
  rw [List.prefix_nil.1 isPrefix, pass_concat, verified]
  rfl

/-- What is known after some turns: how packets are read, and where clocks come from. -/
structure Ledger (start : Activity) (turns : List (Moment × Turn)) : Prop where
  reader : (start.pass turns).overlay.reader = start.overlay.reader
  earned : ∀ member clock, (start.pass turns).clock? member = some clock →
    Earned start member clock turns

namespace Ledger

variable {start : Activity} {turns : List (Moment × Turn)}

theorem take (ledger : Ledger start turns) (moment : Moment) (turn : Turn) :
    Ledger start (turns ++ [(moment, turn)]) := by
  -- a turn that moves no clock, and of whose packets none is accepted as the member's
  have unmoved : ∀ member clock,
      (∀ packet ∈ turn.packet?.toList, ∀ time, ¬start.overlay.Accepts packet member time) →
      ((start.pass turns).take moment turn).clock? member = (start.pass turns).clock? member →
      ((start.pass turns).take moment turn).clock? member = some clock →
      Earned start member clock (turns ++ [(moment, turn)]) := by
    intro member clock unheeded same now
    exact (ledger.earned member clock (same.symm.trans now)).grow now
      fun packets greatest => greatest.append_unheeded unheeded
  rcases turn.cases_packet with silent | ⟨packet, pick, rfl⟩
  · have quiet := (start.pass turns).quiet_take moment silent
    refine ⟨by rw [pass_concat]; exact quiet.reader.trans ledger.reader, ?_⟩
    intro member clock now
    rw [pass_concat] at now
    exact unmoved member clock (by simp [silent]) (quiet.registry member) now
  · have listens := listens_take (start.pass turns) moment packet pick
    cases listens with
    | unheeded never quiet =>
        refine ⟨by rw [pass_concat]; exact quiet.reader.trans ledger.reader, ?_⟩
        intro member clock now
        rw [pass_concat] at now
        refine unmoved member clock ?_ (quiet.registry member) now
        intro other listed time accepted
        cases List.mem_singleton.1 listed
        exact never member time (accepted.congr ledger.reader)
    | accepted sender time accepts advances =>
        have accepted := (Overlay.accepts_congr ledger.reader sender time).1 accepts
        refine ⟨by rw [pass_concat]; exact advances.reader.trans ledger.reader, ?_⟩
        intro member clock now
        rw [pass_concat] at now
        by_cases own : member = sender
        · subst own
          cases before : (start.pass turns).clock? member with
          | none =>
              obtain rfl := advances.registry.new before now
              exact .fresh before accepted now
          | some known =>
              have moved := advances.registry.known known before
              cases moved.symm.trans now
              exact (ledger.earned member known before).grow now
                fun packets greatest => greatest.append_accepted accepted
        · refine unmoved member clock ?_ (advances.registry.elsewhere member own) now
          intro other listed otherTime otherAccepted
          cases List.mem_singleton.1 listed
          exact own (accepted.unique otherAccepted).1

theorem pass (ledger : Ledger start turns) (later : List (Moment × Turn)) :
    Ledger start (turns ++ later) := by
  induction later generalizing turns with
  | nil =>
      rw [List.append_nil]
      exact ledger
  | cons next later ih =>
      have grown := ih (ledger.take next.1 next.2)
      rw [List.append_assoc] at grown
      exact grown

theorem clocked (ledger : Ledger start turns) : Clocked start turns where
  earned := ledger.earned
  steady moment turn member clock before := by
    rcases turn.cases_packet with silent | ⟨packet, pick, rfl⟩
    · have quiet := (start.pass turns).quiet_take moment silent
      exact ⟨clock, (quiet.registry member).trans before, UInt64.le_refl _⟩
    · cases listens_take (start.pass turns) moment packet pick with
      | unheeded never quiet =>
          exact ⟨clock, (quiet.registry member).trans before, UInt64.le_refl _⟩
      | accepted sender time accepts advances =>
          by_cases own : member = sender
          · subst own
            refine ⟨_, advances.registry.known clock before, ?_⟩
            grind [Registry.max_clock_eq]
          · exact ⟨clock, (advances.registry.elsewhere member own).trans before,
              UInt64.le_refl _⟩
  counted moment packet pick member time clock accepted before := by
    have acceptedThen := accepted.congr ledger.reader
    cases listens_take (start.pass turns) moment packet pick with
    | unheeded never quiet => exact absurd acceptedThen (never member time)
    | accepted sender senderTime accepts advances =>
        obtain ⟨rfl, rfl⟩ := accepts.unique acceptedThen
        exact advances.registry.known clock before
  ignored moment packet pick never member := by
    cases listens_take (start.pass turns) moment packet pick with
    | unheeded _ quiet => exact quiet.registry member
    | accepted sender time accepts advances =>
        exact absurd (accepts.congr ledger.reader.symm) (never sender time)

end Ledger

/-- In every life of an overlay on a registry that was empty and is used by nobody else,
clocks are the greatest times accepted. -/
theorem clocked_pass_start (overlay : Overlay) (moment : Moment)
    (turns : List (Moment × Turn)) :
    Clocked (Activity.start overlay .empty moment) turns := by
  have nothing : Ledger (Activity.start overlay .empty moment) [] := by
    refine ⟨rfl, ?_⟩
    intro member clock found
    simp [pass, clock?, Registry.clock?, Activity.start, Neighbourhood.empty, Registry.empty]
      at found
  exact (nothing.pass turns).clocked

end Activity

end PeerDiscovery
