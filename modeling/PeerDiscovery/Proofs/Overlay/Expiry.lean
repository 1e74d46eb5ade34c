import PeerDiscovery.Proofs.Overlay.Walking
import PeerDiscovery.Proofs.Registry.Introductions

/-!
# Expiry costs no peer

A step of a random walk that is not satisfied first drops the walks that have timed out, and
forgets their addresses unless a verified peer is there, of whichever service.  Forgetting an
address would take every peer at it along; as nobody is there, nobody is lost, and the addresses
may be forgotten in any order.  Whatever the step does afterwards only marks peers as sent to.
-/

namespace PeerDiscovery

namespace RandomWalk

/-- The activity once the addresses of the walks that have timed out are forgotten. -/
def expire (walk : RandomWalk) (activity : Activity) : Activity :=
  activity.onRegistry fun registry =>
    (walk.expired activity.moment.now).foldl forgetSilent registry

def TimedOut (walk : RandomWalk) (now : Instant) (address : Address) : Prop :=
  ∃ since, walk.inFlight[address]? = some since ∧ walk.settings.timeout ≤ since.elapsed now

/-- What the expiry of walks leaves of a walk and of an activity. -/
structure Expires (walk : RandomWalk) (activity : Activity) (left : RandomWalk)
    (next : Activity) : Prop where
  settings : left.settings = walk.settings
  lastStep : left.lastStep = walk.lastStep
  inFlight : ∀ (address : Address) (since : Instant), left.inFlight[address]? = some since ↔
    walk.inFlight[address]? = some since ∧
      since.elapsed activity.moment.now < walk.settings.timeout
  /-- An address that did not answer is forgotten if no verified peer is there; -/
  forgotten : ∀ address, walk.TimedOut activity.moment.now address →
    activity.known.registry.Vacant address → address ∉ next.known.registry.addresses
  /-- any other one keeps its entry. -/
  kept : ∀ address,
    ¬(walk.TimedOut activity.moment.now address ∧ activity.known.registry.Vacant address) →
      next.known.registry.addresses[address]? = activity.known.registry.addresses[address]?
  untouched : next = activity.onRegistry fun registry =>
    { registry with addresses := next.known.registry.addresses }

theorem vacant_iff (registry : Registry) (address : Address) :
    registry.Vacant address ↔ registry.isOccupied address = false := by
  rw [← Bool.not_eq_true, registry.isOccupied_iff]
  constructor
  · rintro vacant ⟨member, peer, stored, there⟩
    exact vacant member peer stored there
  · intro free member peer stored there
    exact free ⟨member, peer, stored, there⟩

/-- Nobody goes with an address at which nobody is. -/
theorem verified_forgetSilent (registry : Registry) (address : Address) :
    (forgetSilent registry address).verified = registry.verified := by
  unfold forgetSilent
  split
  · rfl
  · rename_i free
    have vacant := (vacant_iff registry address).2 (by simpa using free)
    refine Std.ExtTreeMap.ext_getElem? fun member => Option.ext fun peer => ?_
    rw [Registry.getElem?_verified_forgetAddress]
    exact ⟨And.left, fun stored => ⟨stored, .inr (vacant member peer stored)⟩⟩

theorem forgetSilent_eq (registry : Registry) (address : Address) :
    forgetSilent registry address =
      { registry with addresses := (forgetSilent registry address).addresses } := by
  refine Registry.ext rfl (verified_forgetSilent registry address) ?_ ?_ ?_ <;>
    · unfold forgetSilent
      split <;> rfl

theorem getElem?_addresses_forgetSilent (registry : Registry) (address known : Address) :
    (forgetSilent registry address).addresses[known]? =
      if known = address ∧ registry.isOccupied address = false then none
      else registry.addresses[known]? := by
  unfold forgetSilent
  cases registry.isOccupied address with
  | true => simp
  | false =>
      have erased : (registry.forgetAddress address).addresses[known]? =
          if address = known then none else registry.addresses[known]? := by
        simp [Registry.forgetAddress, Std.ExtTreeMap.getElem?_erase]
      simpa [eq_comm] using erased

/-- Forgetting several silent addresses changes the table of addresses only. -/
theorem foldl_forgetSilent_eq (registry : Registry) (silent : List Address) :
    silent.foldl forgetSilent registry =
      { registry with addresses := (silent.foldl forgetSilent registry).addresses } := by
  induction silent generalizing registry with
  | nil => rfl
  | cons first others ih =>
      rw [List.foldl_cons, ih, forgetSilent_eq]

/-- Each of several silent addresses is forgotten unless it is occupied, whatever was forgotten
before it. -/
theorem getElem?_addresses_foldl_forgetSilent (registry : Registry) (silent : List Address)
    (known : Address) :
    (silent.foldl forgetSilent registry).addresses[known]? =
      if known ∈ silent ∧ registry.isOccupied known = false then none
      else registry.addresses[known]? := by
  induction silent generalizing registry with
  | nil => simp
  | cons first others ih =>
      have stillFree : (forgetSilent registry first).isOccupied known =
          registry.isOccupied known := by
        unfold Registry.isOccupied
        rw [verified_forgetSilent]
      rw [List.foldl_cons, ih, stillFree, getElem?_addresses_forgetSilent]
      by_cases same : known = first
      · subst same
        cases registry.isOccupied known <;> simp
      · simp [same]

theorem mem_expired (walk : RandomWalk) (now : Instant) (address : Address) :
    address ∈ walk.expired now ↔ walk.TimedOut now address := by
  unfold expired TimedOut hasExpired
  rw [Std.ExtTreeMap.mem_keys, Std.ExtTreeMap.mem_iff_isSome_getElem?,
    Std.ExtTreeMap.getElem?_filter', Option.isSome_iff_exists]
  simp only [Option.filter_eq_some_iff, decide_eq_true_eq]

theorem step_eq (walk : RandomWalk) (activity : Activity) (draw : Draw) (pick : Nat) :
    walk.step activity draw pick =
      if walk.isSatisfied activity then (walk, activity)
      else
        let left := walk.dropExpired activity.moment.now
        if left.isTooEarly activity.moment.now || left.isWindowFull then
          (left, walk.expire activity)
        else left.advance (walk.expire activity) draw pick := rfl

theorem isSatisfied_eq_false_iff (walk : RandomWalk) (activity : Activity) :
    walk.isSatisfied activity = false ↔
      ∀ target, walk.settings.targetPeers = some target → activity.peers.length < target := by
  unfold isSatisfied
  cases walk.settings.targetPeers <;> simp

theorem expires (walk : RandomWalk) (activity : Activity) :
    Expires walk activity (walk.dropExpired activity.moment.now) (walk.expire activity) where
  settings := rfl
  lastStep := rfl
  inFlight address since := by
    unfold dropExpired hasExpired
    simp only [Std.ExtTreeMap.getElem?_filter', Option.filter_eq_some_iff, Bool.not_eq_true',
      decide_eq_false_iff_not, Nat.not_le]
  forgotten address late vacant := by
    have listed := (walk.mem_expired activity.moment.now address).2 late
    have free := (vacant_iff _ address).1 vacant
    have erased := getElem?_addresses_foldl_forgetSilent activity.known.registry
      (walk.expired activity.moment.now) address
    rw [if_pos ⟨listed, free⟩] at erased
    rw [Std.ExtTreeMap.mem_iff_isSome_getElem?]
    exact Bool.eq_false_iff.1 (congrArg Option.isSome erased)
  kept address spared := by
    rw [vacant_iff, ← mem_expired] at spared
    exact (getElem?_addresses_foldl_forgetSilent _ _ address).trans (if_neg spared)
  untouched := by
    have same := foldl_forgetSilent_eq activity.known.registry
      (walk.expired activity.moment.now)
    exact congrArg (fun registry => activity.onRegistry fun _ => registry) same

theorem keptByWalking_sameButMarks (registry : Registry) :
    Activity.KeptByWalking fun activity => registry.SameButMarks activity.known.registry where
  walkTo activity destination same :=
    same.trans (activity.known.registry.sameButMarks_markSent destination activity.moment.now)
  noteBootstrap _ same := same

/-- While peers are wanting, a step begins with the expiry of walks, and what it does then only
sets marks. -/
theorem expires_step (walk : RandomWalk) (activity : Activity)
    (wanting : ∀ target, walk.settings.targetPeers = some target →
      activity.peers.length < target) (draw : Draw) (pick : Nat) :
    ∃ left next, Expires walk activity left next ∧
      walk.step activity draw pick =
        (if left.isTooEarly activity.moment.now || left.isWindowFull then (left, next)
        else left.advance next draw pick) ∧
      next.known.registry.SameButMarks (walk.step activity draw pick).2.known.registry := by
  have unsatisfied := (walk.isSatisfied_eq_false_iff activity).2 wanting
  have stepped := walk.step_eq activity draw pick
  rw [unsatisfied, if_neg Bool.false_ne_true] at stepped
  refine ⟨_, _, walk.expires activity, stepped, ?_⟩
  rw [stepped]
  dsimp only
  split
  · exact .refl _
  · exact (keptByWalking_sameButMarks _).advance (.refl _) _ draw pick

def sampleSilent : Address := ⟨⟨1, 1, 1, 1⟩, 1⟩

def sampleOccupied : Address := ⟨⟨2, 2, 2, 2⟩, 2⟩

def sampleWalk : RandomWalk :=
  { settings := {}
    inFlight := (Std.ExtTreeMap.empty.insert sampleSilent 0).insert sampleOccupied 0
    lastStep := none }

/-- An overlay that knows both addresses; a peer of no service is at the second one. -/
def sampleWalking : Activity :=
  .start (OverlayPlan.build { settings := { service := ⟨Block.ofNatLE 20 0⟩ } }
      (.ofSecrets (Block.ofNatLE 32 1) (Block.ofNatLE 32 1)))
    ⟨((Registry.empty.rememberAddress sampleSilent).rememberAddress sampleOccupied).setPeer
      ⟨Block.ofNatLE 20 1⟩
      (.seenAt (.theirs ⟨Block.ofNatLE 32 1, Block.ofNatLE 32 2⟩) sampleOccupied false 0), .empty⟩
    ⟨Duration.ofSeconds 5, true⟩

/-- After five seconds the one address is forgotten and the other one is not. -/
theorem expires_step_sample :
    (∀ target, sampleWalk.settings.targetPeers = some target →
      sampleWalking.peers.length < target) ∧
      sampleSilent ∈ sampleWalking.known.registry.addresses ∧
      sampleSilent ∉ (sampleWalk.step sampleWalking ⟨0, 0⟩ 0).2.known.registry.addresses ∧
      sampleOccupied ∈ (sampleWalk.step sampleWalking ⟨0, 0⟩ 0).2.known.registry.addresses := by
  have wanting : ∀ target, sampleWalk.settings.targetPeers = some target →
      sampleWalking.peers.length < target := by
    rintro target ⟨⟩
    decide +kernel
  have known : sampleSilent ∈ sampleWalking.known.registry.addresses ∧
      sampleOccupied ∈ sampleWalking.known.registry.addresses ∧
      sampleWalking.known.registry.isOccupied sampleSilent = false ∧
      sampleWalking.known.registry.isOccupied sampleOccupied = true := by
    decide +kernel
  have silent : sampleWalk.TimedOut sampleWalking.moment.now sampleSilent :=
    ⟨0, by decide +kernel, by decide⟩
  obtain ⟨listed, alsoListed, free, occupied⟩ := known
  obtain ⟨left, next, expires, -, marks⟩ := expires_step sampleWalk sampleWalking wanting ⟨0, 0⟩ 0
  refine ⟨wanting, listed, ?_, ?_⟩
  · rw [marks.addresses]
    exact expires.forgotten sampleSilent silent ((vacant_iff _ _).2 free)
  · have spared := expires.kept sampleOccupied fun both => by
      rw [vacant_iff, occupied] at both
      cases both.2
    rw [marks.addresses, Std.ExtTreeMap.mem_iff_isSome_getElem?, spared,
      ← Std.ExtTreeMap.mem_iff_isSome_getElem?]
    exact alsoListed

end RandomWalk

end PeerDiscovery
