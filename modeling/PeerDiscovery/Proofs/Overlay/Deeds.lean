import PeerDiscovery.Proofs.Overlay.Acceptance
import PeerDiscovery.Proofs.Overlay.Estimates

/-!
# Deeds

Whoever holds an overlay can have it do almost anything: send, verify, discover, claim times, and
remember what came of it.  A deed is any such doing.  Two things are out of its reach: the key,
the settings and the handlers of the overlay are fixed when it is built, and the log is written
and never read.

The reactions of an overlay to its packets are deeds, so that they can stand beside the programs of
an application.
-/

namespace PeerDiscovery

namespace Activity

def preface (activity : Activity) (earlier : List Notice) : Activity :=
  { activity with notices := earlier ++ activity.notices }

variable (activity : Activity) (earlier : List Notice)

theorem preface_eq_self : { activity with notices := [] }.preface activity.notices = activity := by
  simp only [preface, List.append_nil]

theorem tell_preface (notice : Notice) :
    (activity.preface earlier).tell notice = (activity.tell notice).preface earlier := by
  simp only [preface, tell, List.append_assoc]

theorem learnWan_preface (sender wan : Address) :
    (activity.preface earlier).learnWan sender wan =
      (activity.learnWan sender wan).preface earlier := by
  unfold learnWan
  split <;> rfl

theorem takeResponse_preface (peer : Peer) (response : IntroductionResponse) :
    (activity.preface earlier).takeResponse peer response =
      (activity.takeResponse peer response).preface earlier := by
  rw [takeResponse_eq, takeResponse_eq]
  dsimp only
  rw [learnWan_preface]
  rfl

theorem askCandidate_preface (walker : Puncture) (introduced : Option Peer) :
    (activity.preface earlier).askCandidate walker introduced =
      (activity.askCandidate walker introduced).preface earlier := by
  cases introduced <;> rfl

theorem answerRequest_preface (peer : Peer) (request : IntroductionRequest) (pick : Nat) :
    (activity.preface earlier).answerRequest peer request pick =
      (activity.answerRequest peer request pick).preface earlier := by
  have full : (activity.preface earlier).isFull = activity.isFull := rfl
  rw [answerRequest_eq, answerRequest_eq, full]
  split
  · exact tell_preface activity earlier _
  · have verified (requester : Peer) : (activity.preface earlier).verify requester =
        (activity.verify requester).preface earlier := rfl
    have introduced (excluded : Option MemberId) (activity : Activity) :
        (activity.preface earlier).introduction? excluded pick =
          activity.introduction? excluded pick := rfl
    dsimp only
    rw [verified, introduced, askCandidate_preface]
    rfl

/-- What is done after reading a packet does not read the log if no continuation does. -/
theorem bind_preface {Value : Type} (opened : Except PacketError Value) {next : Value → Activity}
    {follows : Value → Activity} (same : ∀ value, follows value = (next value).preface earlier) :
    (opened >>= fun value => pure (follows value)) =
      (opened >>= fun value => pure (next value)).map (·.preface earlier) := by
  cases opened with
  | error cause => rfl
  | ok value => exact congrArg Except.ok (same value)

theorem takeMembership_preface (message : MembershipMessage) (packet : Packet) (pick : Nat) :
    (activity.preface earlier).takeMembership message packet pick =
      (activity.takeMembership message packet pick).map (·.preface earlier) := by
  cases message with
  | introductionRequest =>
      exact bind_preface earlier _ fun signed =>
        (activity.hear signed).answerRequest_preface earlier signed.peer signed.payload pick
  | introductionResponse =>
      exact bind_preface earlier _ fun signed =>
        (activity.hear signed).takeResponse_preface earlier signed.peer signed.payload
  | puncture => exact bind_preface earlier _ fun signed => rfl
  | punctureRequest => exact bind_preface earlier _ fun unsigned => rfl

theorem takeApplication_preface (handler : Handler) (messageId : UInt8) (packet : Packet) :
    (activity.preface earlier).takeApplication handler messageId packet =
      (activity.takeApplication handler messageId packet).map (·.preface earlier) := by
  cases handler with
  | rejects cause => rfl
  | reads protection format =>
      cases protection <;> exact bind_preface earlier _ fun read => rfl

theorem react_preface (reaction : Reaction) (messageId : UInt8) (packet : Packet) (pick : Nat) :
    (activity.preface earlier).react reaction messageId packet pick =
      (activity.react reaction messageId packet pick).map (·.preface earlier) := by
  cases reaction with
  | membership message => exact activity.takeMembership_preface earlier message packet pick
  | application handler => exact activity.takeApplication_preface earlier handler messageId packet

variable {activity}

theorem reader_react {next : Activity} {reaction : Reaction} {messageId : UInt8} {packet : Packet}
    {pick : Nat} (reacted : activity.react reaction messageId packet pick = .ok next) :
    next.overlay.reader = activity.overlay.reader := by
  have heard := activity.heard_react reaction messageId packet pick
  rw [reacted] at heard
  cases heard with
  | accepted parts next genuine whole reads advances => exact advances.reader
  | unsigned next never quiet => exact quiet.reader

end Activity

/-- An overlay at work, and what the application that uses it remembers. -/
@[ext]
structure Scene (Memory : Type) where
  activity : Activity
  memory : Memory

namespace Scene

variable {Memory : Type}

def notices (scene : Scene Memory) : List Notice := scene.activity.notices

def tell (scene : Scene Memory) (notice : Notice) : Scene Memory :=
  { scene with activity := scene.activity.tell notice }

def noteHeard (scene : Scene Memory) (packet : Packet) : Scene Memory :=
  { scene with activity := scene.activity.noteHeard packet }

def preface (scene : Scene Memory) (earlier : List Notice) : Scene Memory :=
  { scene with activity := scene.activity.preface earlier }

def silent (scene : Scene Memory) : Scene Memory :=
  { scene with activity := { scene.activity with notices := [] } }

theorem silent_preface (scene : Scene Memory) : scene.silent.preface scene.notices = scene :=
  Scene.ext scene.activity.preface_eq_self rfl

theorem tell_preface (scene : Scene Memory) (earlier : List Notice) (notice : Notice) :
    (scene.preface earlier).tell notice = (scene.tell notice).preface earlier :=
  Scene.ext (scene.activity.tell_preface earlier notice) rfl

end Scene

/-- Something that somebody does with an overlay, and that may fail. -/
structure Deed (Memory : Type) where
  run : Scene Memory → Scene Memory × Option PacketError
  reader_run : ∀ scene : Scene Memory,
    (run scene).1.activity.overlay.reader = scene.activity.overlay.reader
  run_preface : ∀ (scene : Scene Memory) (earlier : List Notice),
    run (scene.preface earlier) = ((run scene).1.preface earlier, (run scene).2)

namespace Deed

variable {Memory : Type}

/-- The reaction of an overlay to a packet.  What is rejected changes nothing. -/
def reacts (reaction : Reaction) (messageId : UInt8) (packet : Packet) (pick : Nat) :
    Deed Memory where
  run scene :=
    match scene.activity.react reaction messageId packet pick with
    | .ok next => ({ scene with activity := next }, none)
    | .error cause => (scene, some cause)
  reader_run scene := by
    cases reacted : scene.activity.react reaction messageId packet pick with
    | ok next => exact Activity.reader_react reacted
    | error cause => rfl
  run_preface scene earlier := by
    have same := scene.activity.react_preface earlier reaction messageId packet pick
    simp only [Scene.preface, same]
    cases scene.activity.react reaction messageId packet pick <;> rfl

def excused (deed : Deed Memory) : Deed Memory where
  run scene := ((deed.run scene).1, none)
  reader_run := deed.reader_run
  run_preface scene earlier := by rw [deed.run_preface]

/-- The scene that a deed leaves, with one more line in its log if the deed fails. -/
def told (deed : Deed Memory) (scene : Scene Memory) (line : PacketError → Notice) :
    Scene Memory :=
  match (deed.run scene).2 with
  | none => (deed.run scene).1
  | some cause => (deed.run scene).1.tell (line cause)

variable (deed : Deed Memory) (scene : Scene Memory) (line : PacketError → Notice)

theorem reader_told :
    (deed.told scene line).activity.overlay.reader = scene.activity.overlay.reader := by
  unfold told
  cases (deed.run scene).2 with
  | none => exact deed.reader_run scene
  | some cause => exact deed.reader_run scene

theorem told_preface (earlier : List Notice) :
    deed.told (scene.preface earlier) line = (deed.told scene line).preface earlier := by
  unfold told
  rw [deed.run_preface]
  cases (deed.run scene).2 with
  | none => rfl
  | some cause => exact (deed.run scene).1.tell_preface earlier (line cause)

end Deed

end PeerDiscovery
