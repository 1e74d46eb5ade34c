import PeerDiscovery.Registry.Basic

/-!
# Operations on the registry

Everything that can be done to a registry, as data: a run of a registry is a
list of operations with arbitrary arguments.
-/

namespace PeerDiscovery

namespace Registry

inductive Operation where
  | verify (peer : Peer)
  | discover (introducer : Peer) (address : Address) (service : Option ServiceId)
  | addServices (member : MemberId) (services : List ServiceId)
  | forgetAddress (address : Address)
  | forgetPeer (member : MemberId)
  | blockAddress (address : Address)
  | blockMember (member : MemberId)
  | markSent (address : Address) (now : Instant)
  | markHeard (address : Address) (now : Instant)
  | updateClock (member : MemberId) (time : UInt64) (now : Instant)

def apply (registry : Registry) : Operation → Registry
  | .verify peer => registry.verify peer
  | .discover introducer address service => registry.discover introducer address service
  | .addServices member services => registry.addServices member services
  | .forgetAddress address => registry.forgetAddress address
  | .forgetPeer member => registry.forgetPeer member
  | .blockAddress address => registry.blockAddress address
  | .blockMember member => registry.blockMember member
  | .markSent address now => registry.markSent address now
  | .markHeard address now => registry.markHeard address now
  | .updateClock member time now => registry.updateClock member time now

def run (registry : Registry) (operations : List Operation) : Registry :=
  operations.foldl apply registry

@[simp]
theorem run_nil (registry : Registry) : registry.run [] = registry := rfl

@[simp]
theorem run_cons (registry : Registry) (operation : Operation) (operations : List Operation) :
    registry.run (operation :: operations) = (registry.apply operation).run operations := rfl

theorem run_append (registry : Registry) (earlier later : List Operation) :
    registry.run (earlier ++ later) = (registry.run earlier).run later :=
  List.foldl_append

theorem run_induction {motive : Registry → Prop}
    (kept : ∀ registry operation, motive registry → motive (registry.apply operation))
    {registry : Registry} (first : motive registry) (operations : List Operation) :
    motive (registry.run operations) := by
  induction operations generalizing registry with
  | nil => exact first
  | cons operation operations ih => exact ih (kept registry operation first)

end Registry

end PeerDiscovery
