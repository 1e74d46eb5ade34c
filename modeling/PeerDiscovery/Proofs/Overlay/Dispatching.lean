import PeerDiscovery.Proofs.Overlay.Deeds
import PeerDiscovery.Proofs.Overlay.Registration
import PeerDiscovery.Proofs.Overlay.Rejection

/-!
# Dispatching packets

An overlay hands a packet to the one handler that its message identifier selects.  The membership
messages are its own; for any other identifier it is the handler that was registered last.

The overlay does not look into its handlers.  So what stands behind them is left open here: each
handler names a program of the application, which may do any deed.  That a handler reads a payload
and delivers it is one case, and in this case an overlay dispatches as `Activity.receive` says.

A failure is told and nothing else: the scene goes on as if the program had done the same without
failing, however many packets follow and whatever else happens in between.
-/

namespace PeerDiscovery

/-- What becomes of a packet that an overlay receives. -/
inductive Dispatch where
  | foreign
  | unhandled
  | handled (messageId : UInt8) (reaction : Reaction)

namespace Overlay

def dispatch (overlay : Overlay) (packet : Packet) : Dispatch :=
  if packet.hasHeader overlay.service then
    match packet.messageId? with
    | none => .unhandled
    | some messageId =>
      match overlay.reaction? messageId with
      | none => .unhandled
      | some reaction => .handled messageId reaction
  else .foreign

variable {overlay : Overlay} {packet : Packet} {messageId : UInt8}

theorem dispatch_of_foreign (foreign : packet.hasHeader overlay.service = false) :
    overlay.dispatch packet = .foreign := by
  unfold dispatch
  rw [foreign]
  rfl

theorem dispatch_of_reaction?_eq_none (headed : packet.hasHeader overlay.service = true)
    (numbered : packet.messageId? = some messageId)
    (unhandled : overlay.reaction? messageId = none) :
    overlay.dispatch packet = .unhandled := by
  unfold dispatch
  rw [if_pos headed]
  simp only [numbered, unhandled]

theorem dispatch_of_reaction? (headed : packet.hasHeader overlay.service = true)
    (numbered : packet.messageId? = some messageId) {reaction : Reaction}
    (reacts : overlay.reaction? messageId = some reaction) :
    overlay.dispatch packet = .handled messageId reaction := by
  unfold dispatch
  rw [if_pos headed]
  simp only [numbered, reacts]

end Overlay

/-- What the programs of an application do with a packet, each behind its handler. -/
abbrev Programs (Memory : Type) := Handler → UInt8 → Packet → Deed Memory

abbrev Conduct (Memory : Type) := Reaction → UInt8 → Packet → Nat → Deed Memory

variable {Memory : Type}

def Programs.reading : Programs Memory := fun handler messageId packet =>
  .reacts (.application handler) messageId packet 0

/-- An overlay reacts to the membership messages itself, and leaves all others to programs. -/
def Programs.conduct (programs : Programs Memory) : Conduct Memory
  | .membership message, messageId, packet, pick =>
    .reacts (.membership message) messageId packet pick
  | .application handler, messageId, packet, _ => programs handler messageId packet

theorem Programs.conduct_reading (reaction : Reaction) (messageId : UInt8) (packet : Packet)
    (pick : Nat) :
    (reading : Programs Memory).conduct reaction messageId packet pick =
      .reacts reaction messageId packet pick := by
  cases reaction <;> rfl

def Conduct.excused (conduct : Conduct Memory) : Conduct Memory :=
  fun reaction messageId packet pick => (conduct reaction messageId packet pick).excused

namespace Scene

/-- Receives a packet: whoever is to handle it does so, and a failure is told. -/
def attend (scene : Scene Memory) (conduct : Conduct Memory) (packet : Packet) (pick : Nat) :
    Scene Memory :=
  match scene.activity.overlay.dispatch packet with
  | .foreign => scene
  | .unhandled => scene.noteHeard packet
  | .handled messageId reaction =>
    (conduct reaction messageId packet pick).told (scene.noteHeard packet)
      (.rejected messageId packet.source)

/-- Something that happens to an overlay: a packet comes, or somebody does something with it. -/
inductive Incident (Memory : Type) where
  | receives (moment : Moment) (packet : Packet) (pick : Nat)
  | does (deed : Deed Memory)

def atMoment (scene : Scene Memory) (moment : Moment) : Scene Memory :=
  { scene with activity := { scene.activity with moment } }

def meet (scene : Scene Memory) (conduct : Conduct Memory) : Incident Memory → Scene Memory
  | .receives moment packet pick => (scene.atMoment moment).attend conduct packet pick
  | .does deed => (deed.run scene).1

/-- The scene after a list of incidents, the first one first. -/
def course (scene : Scene Memory) (conduct : Conduct Memory)
    (incidents : List (Incident Memory)) : Scene Memory :=
  incidents.foldl (fun scene incident => scene.meet conduct incident) scene

/-- Another scene is the same, but that its log has some lines more. -/
structure Louder (scene other : Scene Memory) : Prop where
  silent : other.silent = scene.silent
  notices : scene.notices.Sublist other.notices

variable {scene other : Scene Memory} {conduct : Conduct Memory} {packet : Packet} {pick : Nat}

/-- An overlay whose handlers read payloads receives packets in this way. -/
theorem attend_reading (scene : Scene Memory) (packet : Packet) (pick : Nat) :
    scene.attend Programs.reading.conduct packet pick =
      { scene with activity := scene.activity.receive packet pick } := by
  unfold attend
  cases headed : packet.hasHeader scene.activity.service with
  | false =>
      rw [Overlay.dispatch_of_foreign headed, Activity.receive_of_foreign headed]
  | true =>
      obtain ⟨messageId, numbered⟩ := Packet.exists_messageId? headed
      cases reacts : scene.activity.overlay.reaction? messageId with
      | none =>
          have silent : ∀ found, packet.messageId? = some found →
              scene.activity.overlay.reaction? found = none := by
            intro found same
            cases numbered.symm.trans same
            exact reacts
          rw [Overlay.dispatch_of_reaction?_eq_none headed numbered reacts,
            Activity.receive_of_reaction?_eq_none headed silent]
          rfl
      | some reaction =>
          rw [Overlay.dispatch_of_reaction? headed numbered reacts,
            Activity.receive_of_reaction? headed numbered reacts]
          simp only [Programs.conduct_reading, Deed.told, Deed.reacts, noteHeard]
          cases (scene.activity.noteHeard packet).react reaction messageId packet pick <;> rfl

theorem reader_attend (scene : Scene Memory) (conduct : Conduct Memory) (packet : Packet)
    (pick : Nat) :
    (scene.attend conduct packet pick).activity.overlay.reader =
      scene.activity.overlay.reader := by
  unfold attend
  cases scene.activity.overlay.dispatch packet with
  | foreign => rfl
  | unhandled => rfl
  | handled messageId reaction => exact Deed.reader_told _ (scene.noteHeard packet) _

theorem reader_course (scene : Scene Memory) (conduct : Conduct Memory)
    (incidents : List (Incident Memory)) :
    (scene.course conduct incidents).activity.overlay.reader =
      scene.activity.overlay.reader := by
  induction incidents generalizing scene with
  | nil => rfl
  | cons incident others ih =>
      have first : (scene.meet conduct incident).activity.overlay.reader =
          scene.activity.overlay.reader := by
        cases incident with
        | receives moment packet pick => exact (scene.atMoment moment).reader_attend _ _ _
        | does deed => exact deed.reader_run scene
      exact (ih _).trans first

variable (earlier : List Notice)

theorem attend_preface (scene : Scene Memory) (conduct : Conduct Memory) (packet : Packet)
    (pick : Nat) :
    (scene.preface earlier).attend conduct packet pick =
      (scene.attend conduct packet pick).preface earlier := by
  have same : (scene.preface earlier).activity.overlay = scene.activity.overlay := rfl
  unfold attend
  rw [same]
  cases scene.activity.overlay.dispatch packet with
  | foreign => rfl
  | unhandled => rfl
  | handled messageId reaction => exact Deed.told_preface _ (scene.noteHeard packet) _ earlier

theorem course_preface (scene : Scene Memory) (conduct : Conduct Memory)
    (incidents : List (Incident Memory)) :
    (scene.preface earlier).course conduct incidents =
      (scene.course conduct incidents).preface earlier := by
  induction incidents generalizing scene with
  | nil => rfl
  | cons incident others ih =>
      have first : (scene.preface earlier).meet conduct incident =
          (scene.meet conduct incident).preface earlier := by
        cases incident with
        | receives moment packet pick => exact attend_preface earlier (scene.atMoment moment) _ _ _
        | does deed => exact congrArg Prod.fst (deed.run_preface scene earlier)
      have rest := ih (scene.meet conduct incident)
      rw [← first] at rest
      exact rest

/-- A line that was told does nothing but stand in the log. -/
theorem course_tell (scene : Scene Memory) (conduct : Conduct Memory) (line : Notice)
    (incidents : List (Incident Memory)) :
    ∃ rest : Scene Memory, scene.course conduct incidents = rest.preface scene.notices ∧
      (scene.tell line).course conduct incidents = rest.preface (scene.notices ++ [line]) := by
  refine ⟨scene.silent.course conduct incidents, ?_, ?_⟩
  · rw [← course_preface, silent_preface]
  · have told : scene.silent.preface (scene.notices ++ [line]) = scene.tell line :=
      (scene.tell line).silent_preface
    rw [← course_preface, told]

namespace Louder

theorem refl (scene : Scene Memory) : Louder scene scene := ⟨rfl, .refl _⟩

theorem tell (louder : Louder scene other) (line : Notice) : Louder scene (other.tell line) :=
  ⟨louder.silent, louder.notices.trans (List.sublist_append_left _ _)⟩

theorem overlay (louder : Louder scene other) :
    other.activity.overlay = scene.activity.overlay :=
  congrArg (fun scene => scene.activity.overlay) louder.silent

theorem noteHeard (louder : Louder scene other) (packet : Packet) :
    Louder (scene.noteHeard packet) (other.noteHeard packet) :=
  ⟨congrArg (fun scene => scene.noteHeard packet) louder.silent, louder.notices⟩

theorem atMoment (louder : Louder scene other) (moment : Moment) :
    Louder (scene.atMoment moment) (other.atMoment moment) :=
  ⟨congrArg (fun scene => scene.atMoment moment) louder.silent, louder.notices⟩

theorem run (louder : Louder scene other) (deed : Deed Memory) :
    Louder (deed.run scene).1 (deed.run other).1 := by
  have quiet := deed.run_preface scene.silent scene.notices
  have loud := deed.run_preface scene.silent other.notices
  rw [silent_preface] at quiet
  rw [← louder.silent, silent_preface] at loud
  rw [quiet, loud, louder.silent]
  exact ⟨rfl, louder.notices.append_right _⟩

theorem told (louder : Louder scene other) (deed : Deed Memory) (line : PacketError → Notice) :
    Louder (deed.excused.told scene line) (deed.told other line) := by
  have done := louder.run deed
  unfold Deed.told
  cases (deed.run other).2 with
  | none => exact done
  | some cause => exact done.tell (line cause)

theorem attend (louder : Louder scene other) (conduct : Conduct Memory) (packet : Packet)
    (pick : Nat) :
    Louder (scene.attend conduct.excused packet pick) (other.attend conduct packet pick) := by
  have heard := louder.noteHeard packet
  rw [Scene.attend, Scene.attend, louder.overlay]
  cases scene.activity.overlay.dispatch packet with
  | foreign => exact louder
  | unhandled => exact heard
  | handled messageId reaction => exact heard.told _ _

theorem course (louder : Louder scene other) (conduct : Conduct Memory)
    (incidents : List (Incident Memory)) :
    Louder (scene.course conduct.excused incidents) (other.course conduct incidents) := by
  induction incidents generalizing scene other with
  | nil => exact louder
  | cons incident others ih =>
      refine ih ?_
      cases incident with
      | receives moment packet pick => exact (louder.atMoment moment).attend conduct packet pick
      | does deed => exact louder.run deed

end Louder

end Scene

namespace OverlayPlan

/-- How the overlay of a plan dispatches packets, whatever the programs of its handlers do. -/
structure Dispatches (plan : OverlayPlan) (programs : Programs Memory) (scene : Scene Memory) :
    Prop where
  receives : ∀ packet pick, scene.attend Programs.reading.conduct packet pick =
    { scene with activity := scene.activity.receive packet pick }
  foreign : ∀ packet pick, packet.hasHeader plan.settings.service = false →
    scene.attend programs.conduct packet pick = scene
  /-- The overlay itself handles the membership messages; no program has a part in it. -/
  membership : ∀ messageId ∈ MembershipMessage.ids, ∃ message : MembershipMessage,
    message.id = messageId ∧ ∀ packet pick, packet.hasHeader plan.settings.service = true →
      packet.messageId? = some messageId →
      scene.attend programs.conduct packet pick =
        (Deed.reacts (.membership message) messageId packet pick).told (scene.noteHeard packet)
          (.rejected messageId packet.source)
  /-- Of the programs that were registered for another message the last one handles it. -/
  application : ∀ messageId ∉ MembershipMessage.ids, ∀ handler,
    plan.RegistersLast messageId handler → ∀ packet pick,
      packet.hasHeader plan.settings.service = true → packet.messageId? = some messageId →
      scene.attend programs.conduct packet pick =
        (programs handler messageId packet).told (scene.noteHeard packet)
          (.rejected messageId packet.source)
  unhandled : ∀ messageId ∉ MembershipMessage.ids, plan.Ignores messageId → ∀ packet pick,
    packet.hasHeader plan.settings.service = true → packet.messageId? = some messageId →
    scene.attend programs.conduct packet pick = scene.noteHeard packet
  failing : ∀ packet pick messageId reaction,
    scene.activity.overlay.dispatch packet = .handled messageId reaction → ∀ left cause,
    (programs.conduct reaction messageId packet pick).run (scene.noteHeard packet) =
      (left, some cause) →
    scene.attend programs.conduct packet pick =
        left.tell (.rejected messageId packet.source cause) ∧
      ∀ incidents, ∃ rest : Scene Memory,
        left.course programs.conduct incidents = rest.preface left.notices ∧
        (scene.attend programs.conduct packet pick).course programs.conduct incidents =
          rest.preface (left.notices ++ [.rejected messageId packet.source cause])
  /-- Whoever fails, and however often: all that comes of it stands in the log. -/
  following : ∀ incidents, (scene.course programs.conduct.excused incidents).Louder
    (scene.course programs.conduct incidents)

/-- An overlay of a plan before anything has happened to it. -/
def opening (plan : OverlayPlan) (key : PrivateKey) (known : Neighbourhood) (moment : Moment)
    (memory : Memory) : Scene Memory :=
  ⟨.start (plan.build key) known moment, memory⟩

variable {plan : OverlayPlan} {key : PrivateKey} {scene : Scene Memory}

theorem dispatches_of_reader (programs : Programs Memory)
    (same : scene.activity.overlay.reader = (plan.build key).reader) :
    plan.Dispatches programs scene := by
  have service : scene.activity.overlay.service = plan.settings.service :=
    (Overlay.service_congr same).trans (congrArg Overlay.service (plan.build_eq key))
  have reaction := Overlay.reaction?_congr same
  constructor
  case receives => exact scene.attend_reading
  case foreign =>
    intro packet pick foreign
    rw [← service] at foreign
    rw [Scene.attend, Overlay.dispatch_of_foreign foreign]
  case membership =>
    intro messageId taken
    obtain ⟨message, rfl⟩ := MembershipMessage.mem_ids_iff.1 taken
    refine ⟨message, rfl, fun packet pick headed numbered => ?_⟩
    rw [← service] at headed
    have reacts := Overlay.reaction?_id scene.activity.overlay message
    rw [Scene.attend, Overlay.dispatch_of_reaction? headed numbered reacts]
    rfl
  case application =>
    intro messageId free handler last packet pick headed numbered
    rw [← service] at headed
    have reacts := (reaction messageId).trans (reaction?_build_of_registersLast free last key)
    rw [Scene.attend, Overlay.dispatch_of_reaction? headed numbered reacts]
    rfl
  case unhandled =>
    intro messageId free ignored packet pick headed numbered
    rw [← service] at headed
    have silent := (reaction messageId).trans (reaction?_build_of_ignores free ignored key)
    rw [Scene.attend, Overlay.dispatch_of_reaction?_eq_none headed numbered silent]
  case failing =>
    intro packet pick messageId reaction handled left cause failed
    have told : scene.attend programs.conduct packet pick =
        left.tell (.rejected messageId packet.source cause) := by
      rw [Scene.attend, handled]
      simp only [Deed.told, failed]
    rw [told]
    exact ⟨rfl, left.course_tell programs.conduct _⟩
  case following => exact (Scene.Louder.refl scene).course programs.conduct

/-- Whatever happens to the overlay of a plan, it dispatches the next packet as planned. -/
theorem dispatches_course (plan : OverlayPlan) (key : PrivateKey) (known : Neighbourhood)
    (moment : Moment) (memory : Memory) (programs : Programs Memory)
    (incidents : List (Scene.Incident Memory)) :
    plan.Dispatches programs
      ((plan.opening key known moment memory).course programs.conduct incidents) := by
  have opened : (plan.opening key known moment memory).activity.overlay.reader =
      (plan.build key).reader := rfl
  exact dispatches_of_reader programs ((Scene.reader_course _ _ incidents).trans opened)

/-- Of two handlers for one message identifier the later one counts. -/
example : ((Activity.start (build
    { settings := { service := ⟨Block.ofNatLE 20 0⟩ }
      handlers := [(7, .rejects (.malformed "early")), (7, .rejects (.malformed "late"))] }
    Packet.sampleSigner) .empty ⟨0, true⟩).receive
      ⟨.empty, Packet.frontOf ⟨Block.ofNatLE 20 0⟩ 7⟩ 0).notices.map Notice.text =
    ["Dropping message 7 from 0.0.0.0:0: malformed payload: late"] := by
  decide +kernel

end OverlayPlan

end PeerDiscovery
