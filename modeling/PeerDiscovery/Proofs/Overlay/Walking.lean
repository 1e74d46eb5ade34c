import PeerDiscovery.Proofs.Registry.Tables
import PeerDiscovery.RandomWalk

/-!
# What an overlay does of its own accord

An overlay walks to addresses, asks its bootstrap addresses, asks for
introductions and takes steps of random walks.  All of these initiatives are made
of three things: walking to an address, noting when the bootstrap addresses
were asked, and forgetting an address at which nobody is verified.  What these
keep, every initiative keeps.
-/

namespace PeerDiscovery

/-- Something an overlay does of its own accord.  A walk comes in any state that
it may have reached. -/
inductive Initiative where
  | walkTo (destination : Address)
  | bootstrap
  | seekIntroduction (draw : Draw)
  | seekIntroductionFrom (peer : Peer)
  | step (walk : RandomWalk) (draw : Draw) (pick : Nat)

namespace Activity

def takeInitiative (activity : Activity) : Initiative → Activity
  | .walkTo destination => activity.walkTo destination
  | .bootstrap => activity.bootstrap
  | .seekIntroduction draw => activity.seekIntroduction draw
  | .seekIntroductionFrom peer => activity.seekIntroductionFrom peer
  | .step walk draw pick => (walk.step activity draw pick).2

/-- The activity once it is noted that the bootstrap addresses were asked. -/
def noteBootstrap (activity : Activity) : Activity :=
  { activity with
    overlay := { activity.overlay with lastBootstrap := some activity.moment.now } }

@[simp]
theorem registry_onRegistry (activity : Activity) (change : Registry → Registry) :
    (activity.onRegistry change).known.registry = change activity.known.registry := rfl

@[simp]
theorem overlay_sendTo (activity : Activity) (destination : Address) (data : Bytes) :
    (activity.sendTo destination data).overlay = activity.overlay := rfl

@[simp]
theorem sent_sendTo (activity : Activity) (destination : Address) (data : Bytes) :
    (activity.sendTo destination data).sent = activity.sent ++ [⟨destination, data⟩] := rfl

@[simp]
theorem registry_sendTo (activity : Activity) (destination : Address) (data : Bytes) :
    (activity.sendTo destination data).known.registry =
      activity.known.registry.markSent destination activity.moment.now := rfl

theorem walkTo_eq (activity : Activity) (destination : Address) :
    activity.walkTo destination =
      activity.claimTime.sendTo destination
        ((activity.claimTime.overlay.draft MembershipMessage.introductionRequest.id true).frame
          (activity.claimTime.request destination []).encode) := rfl

structure KeptByWalking (holds : Activity → Prop) : Prop where
  walkTo : ∀ (activity : Activity) (destination : Address),
    holds activity → holds (activity.walkTo destination)
  noteBootstrap : ∀ activity : Activity, holds activity → holds activity.noteBootstrap

structure KeptByInitiatives (holds : Activity → Prop) : Prop where
  walkTo : ∀ (activity : Activity) (destination : Address),
    holds activity → holds (activity.walkTo destination)
  noteBootstrap : ∀ activity : Activity, holds activity → holds activity.noteBootstrap
  forgetAddress : ∀ (activity : Activity) (address : Address), holds activity →
    activity.known.registry.isOccupied address = false →
    holds (activity.onRegistry (·.forgetAddress address))

namespace KeptByWalking

variable {holds : Activity → Prop} {activity : Activity}

theorem walks (kept : KeptByWalking holds) (first : holds activity)
    (destinations : List Address) : holds (destinations.foldl Activity.walkTo activity) := by
  induction destinations generalizing activity with
  | nil => exact first
  | cons destination others ih => exact ih (kept.walkTo activity destination first)

theorem bootstrap (kept : KeptByWalking holds) (first : holds activity) :
    holds activity.bootstrap := by
  unfold Activity.bootstrap
  split
  · exact kept.walks (kept.noteBootstrap activity first) _
  · exact first

theorem seekIntroduction (kept : KeptByWalking holds) (first : holds activity) (draw : Draw) :
    holds (activity.seekIntroduction draw) := by
  unfold Activity.seekIntroduction
  dsimp only
  split
  · exact kept.bootstrap first
  · split
    · exact kept.walkTo activity _ first
    · exact first

theorem advance (kept : KeptByWalking holds) (first : holds activity) (walk : RandomWalk)
    (draw : Draw) (pick : Nat) : holds (walk.advance activity draw pick).2 := by
  have asked := kept.seekIntroduction first draw
  unfold RandomWalk.advance
  dsimp only
  split
  · exact kept.walkTo _ _ asked
  · exact asked

end KeptByWalking

namespace KeptByInitiatives

variable {holds : Activity → Prop} {activity : Activity}

theorem walking (kept : KeptByInitiatives holds) : KeptByWalking holds :=
  ⟨kept.walkTo, kept.noteBootstrap⟩

theorem forgetSilent (kept : KeptByInitiatives holds) (first : holds activity)
    (addresses : List Address) :
    holds (activity.onRegistry fun registry =>
      addresses.foldl RandomWalk.forgetSilent registry) := by
  induction addresses generalizing activity with
  | nil => exact first
  | cons address others ih =>
      have next : holds (activity.onRegistry fun registry =>
          RandomWalk.forgetSilent registry address) := by
        unfold RandomWalk.forgetSilent
        by_cases occupied : activity.known.registry.isOccupied address = true
        · simp only [onRegistry, if_pos occupied]
          exact first
        · simp only [onRegistry, if_neg occupied]
          exact kept.forgetAddress activity address first (by simpa using occupied)
      exact ih next

theorem step (kept : KeptByInitiatives holds) (first : holds activity) (walk : RandomWalk)
    (draw : Draw) (pick : Nat) : holds (walk.step activity draw pick).2 := by
  have forgotten := kept.forgetSilent first (walk.expired activity.moment.now)
  unfold RandomWalk.step
  dsimp only
  split
  · exact first
  · split
    · exact forgotten
    · exact kept.walking.advance forgotten _ draw pick

/-- What the three steps keep, every initiative keeps. -/
theorem takeInitiative (kept : KeptByInitiatives holds) (first : holds activity)
    (initiative : Initiative) : holds (activity.takeInitiative initiative) := by
  cases initiative with
  | walkTo destination => exact kept.walkTo activity destination first
  | bootstrap => exact kept.walking.bootstrap first
  | seekIntroduction draw => exact kept.walking.seekIntroduction first draw
  | seekIntroductionFrom peer => exact kept.walkTo activity peer.address first
  | step walk draw pick => exact kept.step first walk draw pick

end KeptByInitiatives

end Activity

end PeerDiscovery
