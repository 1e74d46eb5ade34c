import PeerDiscovery.Proofs.Overlay.Expiry

/-!
# Window and pace of a random walk

A random walk takes a step whenever its overlay is given the occasion; between two steps anything
may have happened to the overlay and to the registry.  The walk itself remembers which addresses
have not answered and when it last completed a step.  `Stride` lists what a step comes to, in the
order of its checks: wanted peers, expiry, interval, window.  From it follow the bound on
unanswered walks and the distance between completed steps, whatever happens in between.
-/

namespace PeerDiscovery

namespace RandomWalk

/-- The occasion to take a step: whatever the overlay has become by then, and what is drawn. -/
structure Tick where
  activity : Activity
  draw : Draw
  pick : Nat

def Tick.now (tick : Tick) : Instant := tick.activity.moment.now

def take (walk : RandomWalk) (tick : Tick) : RandomWalk × Activity :=
  walk.step tick.activity tick.draw tick.pick

def after (walk : RandomWalk) (ticks : List Tick) : RandomWalk :=
  ticks.foldl (fun walk tick => (walk.take tick).1) walk

def completes (walk : RandomWalk) (tick : Tick) : Bool :=
  !walk.isSatisfied tick.activity && !(walk.dropExpired tick.now).isTooEarly tick.now &&
    !(walk.dropExpired tick.now).isWindowFull

/-- When the steps were taken that passed all their checks. -/
def completions (walk : RandomWalk) : List Tick → List Instant
  | [] => []
  | tick :: later =>
    (if walk.completes tick then [tick.now] else []) ++ (walk.take tick).1.completions later

/-- What a step comes to. -/
inductive Stride (walk : RandomWalk) (tick : Tick) : RandomWalk × Activity → Prop where
  | rests : walk.isSatisfied tick.activity = true → Stride walk tick (walk, tick.activity)
  | waits : walk.completes tick = false → walk.isSatisfied tick.activity = false →
      Stride walk tick (walk.dropExpired tick.now, walk.expire tick.activity)
  | asks : walk.completes tick = true →
      (∀ address ∈ (walk.expire tick.activity).walkable,
        address ∈ (walk.dropExpired tick.now).inFlight) →
      Stride walk tick
        ({ walk.dropExpired tick.now with lastStep := some tick.now },
          (walk.expire tick.activity).seekIntroduction tick.draw)
  | walks (address : Address) : walk.completes tick = true →
      address ∈ (walk.expire tick.activity).walkable →
      address ∉ (walk.dropExpired tick.now).inFlight →
      Stride walk tick
        ({ walk.dropExpired tick.now with
            inFlight := (walk.dropExpired tick.now).inFlight.insert address tick.now
            lastStep := some tick.now },
          ((walk.expire tick.activity).seekIntroduction tick.draw).walkTo address)

theorem completes_iff (walk : RandomWalk) (tick : Tick) :
    walk.completes tick = true ↔ walk.isSatisfied tick.activity = false ∧
      (walk.dropExpired tick.now).isTooEarly tick.now = false ∧
        (walk.dropExpired tick.now).isWindowFull = false := by
  simp only [completes, Bool.and_eq_true, Bool.not_eq_true', and_assoc]

theorem stride_advance {walk : RandomWalk} {tick : Tick} (completed : walk.completes tick = true) :
    Stride walk tick ((walk.dropExpired tick.now).advance (walk.expire tick.activity) tick.draw
      tick.pick) := by
  unfold advance
  dsimp only
  split
  · rename_i address chosen
    have listed := mem_of_choose?_eq_some chosen
    rw [List.mem_filter, Bool.not_eq_true', ← Bool.not_eq_true,
      Std.ExtTreeMap.contains_iff_mem] at listed
    exact .walks address completed listed.1 listed.2
  · rename_i nothing
    refine .asks completed fun address walkable => ?_
    have excluded := List.filter_eq_nil_iff.1 (choose?_eq_none_iff.1 nothing) address walkable
    rwa [Bool.not_eq_true', Bool.not_eq_false, Std.ExtTreeMap.contains_iff_mem] at excluded

theorem take_eq (walk : RandomWalk) (tick : Tick) :
    walk.take tick =
      if walk.isSatisfied tick.activity then (walk, tick.activity)
      else if walk.completes tick then
        (walk.dropExpired tick.now).advance (walk.expire tick.activity) tick.draw tick.pick
      else (walk.dropExpired tick.now, walk.expire tick.activity) := by
  refine (walk.step_eq tick.activity tick.draw tick.pick).trans ?_
  cases satisfied : walk.isSatisfied tick.activity with
  | true => rfl
  | false =>
      unfold completes
      rw [satisfied]
      change (if ((walk.dropExpired tick.now).isTooEarly tick.now ||
        (walk.dropExpired tick.now).isWindowFull) = true then _ else _) = _
      cases (walk.dropExpired tick.now).isTooEarly tick.now <;>
        cases (walk.dropExpired tick.now).isWindowFull <;> rfl

theorem stride_take (walk : RandomWalk) (tick : Tick) : Stride walk tick (walk.take tick) := by
  rw [take_eq]
  split
  · rename_i satisfied
    exact .rests satisfied
  · rename_i wanting
    split
    · rename_i completed
      exact stride_advance completed
    · rename_i held
      exact .waits (by simpa using held) (by simpa using wanting)

theorem stride_step (walk : RandomWalk) (activity : Activity) (draw : Draw) (pick : Nat) :
    Stride walk ⟨activity, draw, pick⟩ (walk.step activity draw pick) :=
  walk.stride_take ⟨activity, draw, pick⟩

variable {walk : RandomWalk} {tick : Tick} {taken : RandomWalk × Activity}

theorem not_completes_of_isSatisfied (satisfied : walk.isSatisfied tick.activity = true) :
    walk.completes tick = false := by
  rw [completes, satisfied]
  rfl

theorem not_completes_of_isWindowFull
    (full : (walk.dropExpired tick.now).isWindowFull = true) : walk.completes tick = false := by
  cases completed : walk.completes tick with
  | true => exact full.symm.trans ((walk.completes_iff tick).1 completed).2.2
  | false => rfl

theorem Stride.settings (stride : Stride walk tick taken) :
    taken.1.settings = walk.settings := by
  cases stride <;> rfl

/-- A step that does not complete sends nothing and is not remembered. -/
theorem Stride.held (stride : Stride walk tick taken) (held : walk.completes tick = false) :
    taken.2.sent = tick.activity.sent ∧ taken.1.lastStep = walk.lastStep := by
  cases stride with
  | rests satisfied => exact ⟨rfl, rfl⟩
  | waits _ wanting => exact ⟨rfl, rfl⟩
  | asks completed => exact Bool.noConfusion (held.symm.trans completed)
  | walks address completed => exact Bool.noConfusion (held.symm.trans completed)

theorem Stride.stamped (stride : Stride walk tick taken)
    (completed : walk.completes tick = true) : taken.1.lastStep = some tick.now := by
  cases stride with
  | rests satisfied =>
      have held : walk.completes tick = false := not_completes_of_isSatisfied satisfied
      exact Bool.noConfusion (held.symm.trans completed)
  | waits held => exact Bool.noConfusion (held.symm.trans completed)
  | asks => rfl
  | walks address => rfl

/-- A step that completes comes no sooner than the interval after the last one. -/
theorem interval_le_of_completes (completed : walk.completes tick = true) {last : Instant}
    (stamped : walk.lastStep = some last) : walk.settings.interval ≤ last.elapsed tick.now := by
  have inTime := ((walk.completes_iff tick).1 completed).2.1
  change (decide (walk.settings.interval ≠ 0) && walk.lastStep.any fun last =>
    decide (last.elapsed tick.now < walk.settings.interval)) = false at inTime
  rw [stamped, Option.any_some, Bool.and_eq_false_iff, decide_eq_false_iff_not,
    decide_eq_false_iff_not] at inTime
  rcases inTime with zero | late
  · rw [Decidable.not_not.1 zero]
    exact Nat.zero_le _
  · exact Nat.le_of_not_lt late

theorem size_dropExpired_le (walk : RandomWalk) (now : Instant) :
    (walk.dropExpired now).inFlight.size ≤ walk.inFlight.size :=
  Std.ExtTreeMap.size_filter_le_size

/-- A step keeps the bound on unanswered walks: it adds one only if there is room. -/
theorem Stride.bounded (stride : Stride walk tick taken)
    (limited : 0 < walk.settings.window) (bounded : walk.inFlight.size ≤ walk.settings.window) :
    taken.1.inFlight.size ≤ walk.settings.window := by
  have fewer := Nat.le_trans (walk.size_dropExpired_le tick.now) bounded
  cases stride with
  | rests satisfied => exact bounded
  | waits held wanting => exact fewer
  | asks completed => exact fewer
  | walks address completed walkable new =>
      have room : (walk.dropExpired tick.now).inFlight.size < walk.settings.window := by
        have notFull := ((walk.completes_iff tick).1 completed).2.2
        rw [isWindowFull, Bool.and_eq_false_iff, decide_eq_false_iff_not,
          decide_eq_false_iff_not] at notFull
        exact Nat.lt_of_not_le (notFull.resolve_left fun none => none limited)
      exact Nat.le_trans Std.ExtTreeMap.size_insert_le room

/-- The walk that a step adds, if any.  An address whose walk timed out in the same step may be
walked to again: a peer of another service there keeps it known and walkable. -/
structure Begins (walk : RandomWalk) (tick : Tick) (next : RandomWalk)
    (added : Option Address) : Prop where
  inFlight : ∀ (address : Address) (since : Instant), next.inFlight[address]? = some since →
    walk.inFlight[address]? = some since ∨ added = some address ∧ since = tick.now
  begun : ∀ address, added = some address → next.inFlight[address]? = some tick.now
  walkable : ∀ address, added = some address → address ∈ (walk.expire tick.activity).walkable
  new : ∀ address, added = some address → address ∉ (walk.dropExpired tick.now).inFlight
  nothing : added = none → walk.completes tick = true →
    ∀ address ∈ (walk.expire tick.activity).walkable,
      address ∈ (walk.dropExpired tick.now).inFlight

theorem begins_none {next : RandomWalk}
    (kept : ∀ (address : Address) (since : Instant), next.inFlight[address]? = some since →
      walk.inFlight[address]? = some since)
    (nothing : walk.completes tick = true → ∀ address ∈ (walk.expire tick.activity).walkable,
      address ∈ (walk.dropExpired tick.now).inFlight) : Begins walk tick next none where
  inFlight address since found := .inl (kept address since found)
  begun _ added := nomatch added
  walkable _ added := nomatch added
  new _ added := nomatch added
  nothing _ := nothing

/-- A step adds at most one walk, to an address that was walkable and not in flight. -/
theorem Stride.begins (stride : Stride walk tick taken) :
    ∃ added, Begins walk tick taken.1 added := by
  have before : ∀ (address : Address) (since : Instant),
      (walk.dropExpired tick.now).inFlight[address]? = some since →
        walk.inFlight[address]? = some since :=
    fun address since found => (((walk.expires tick.activity).inFlight address since).1 found).1
  cases stride with
  | rests satisfied =>
      have held : walk.completes tick = false := not_completes_of_isSatisfied satisfied
      refine ⟨none, begins_none (fun _ _ found => found) fun completed => ?_⟩
      exact Bool.noConfusion (held.symm.trans completed)
  | waits held wanting =>
      refine ⟨none, begins_none before fun completed => ?_⟩
      exact Bool.noConfusion (held.symm.trans completed)
  | asks completed nothing => exact ⟨none, begins_none before fun _ => nothing⟩
  | walks address completed walkable new =>
      refine ⟨some address, fun other since found => ?inFlight, ?begun, ?walkable, ?new, ?nothing⟩
      case inFlight =>
        rw [Std.ExtTreeMap.getElem?_insert] at found
        split at found
        · rename_i same
          rw [Std.LawfulEqCmp.compare_eq_iff_eq] at same
          exact .inr ⟨congrArg some same, (Option.some.inj found).symm⟩
        · exact .inl (before other since found)
      case begun =>
        rintro other ⟨⟩
        exact Std.ExtTreeMap.getElem?_insert_self
      case walkable =>
        rintro other ⟨⟩
        exact walkable
      case new =>
        rintro other ⟨⟩
        exact new
      case nothing => exact fun added => nomatch added

theorem settings_after (walk : RandomWalk) (ticks : List Tick) :
    (walk.after ticks).settings = walk.settings := by
  induction ticks generalizing walk with
  | nil => rfl
  | cons tick later ih => exact (ih _).trans (walk.stride_take tick).settings

theorem bounded_after (ticks : List Tick) (limited : 0 < walk.settings.window)
    (bounded : walk.inFlight.size ≤ walk.settings.window) :
    (walk.after ticks).inFlight.size ≤ walk.settings.window := by
  induction ticks generalizing walk with
  | nil => exact bounded
  | cons tick later ih =>
      have same := (walk.stride_take tick).settings
      have next := (walk.stride_take tick).bounded limited bounded
      rw [← same] at limited next ⊢
      exact ih limited next

/-- What a walk remembers is the time of the last step that it completed. -/
theorem lastStep_after (walk : RandomWalk) (ticks : List Tick) :
    (walk.after ticks).lastStep = (walk.completions ticks).getLast?.or walk.lastStep := by
  induction ticks generalizing walk with
  | nil => rfl
  | cons tick later ih =>
      have stride := walk.stride_take tick
      have remembered := ih (walk.take tick).1
      rw [completions, List.getLast?_append]
      refine remembered.trans ?_
      cases completed : walk.completes tick with
      | true =>
          rw [stride.stamped completed]
          cases ((walk.take tick).1.completions later).getLast? <;> rfl
      | false =>
          rw [(stride.held completed).2]
          cases ((walk.take tick).1.completions later).getLast? <;> rfl

/-- Two distances in a row make no shorter one, even if the clock was set back. -/
theorem le_elapsed_of_le_of_le {span first second third : Nat}
    (early : span ≤ Instant.elapsed first second) (late : span ≤ Instant.elapsed second third) :
    span ≤ Instant.elapsed first third := by
  unfold Instant.elapsed at early late ⊢
  omega

/-- Completed steps keep their distance from each other, and from the last one before. -/
theorem spaced_completions (walk : RandomWalk) (ticks : List Tick) :
    ((walk.completions ticks).Pairwise fun first second =>
        walk.settings.interval ≤ first.elapsed second) ∧
      ∀ last, walk.lastStep = some last → ∀ time ∈ walk.completions ticks,
        walk.settings.interval ≤ last.elapsed time := by
  induction ticks generalizing walk with
  | nil => exact ⟨.nil, fun _ _ _ listed => nomatch listed⟩
  | cons tick later ih =>
      have stride := walk.stride_take tick
      obtain ⟨apart, since⟩ := ih (walk.take tick).1
      rw [stride.settings] at apart since
      unfold completions
      cases completed : walk.completes tick with
      | false =>
          rw [(stride.held completed).2] at since
          exact ⟨apart, since⟩
      | true =>
          have fromHere := since tick.now (stride.stamped completed)
          refine ⟨List.pairwise_cons.2 ⟨fromHere, apart⟩, fun last stamped time listed => ?_⟩
          have toHere := interval_le_of_completes completed stamped
          rcases List.mem_cons.1 listed with rfl | listed
          · exact toHere
          · exact le_elapsed_of_le_of_le toHere (fromHere time listed)

/-- What one step of a walk does, if the walk last completed a step at some time. -/
structure Moderate (walk : RandomWalk) (last : Option Instant) (tick : Tick)
    (taken : RandomWalk × Activity) : Prop where
  rests : ∀ target, walk.settings.targetPeers = some target →
    target ≤ tick.activity.peers.length → taken = (walk, tick.activity)
  early : ∀ time, last = some time → time.elapsed tick.now < walk.settings.interval →
    taken.2.sent = tick.activity.sent
  full : 0 < walk.settings.window →
    walk.settings.window ≤ (walk.dropExpired tick.now).inFlight.size →
      taken.2.sent = tick.activity.sent
  begins : ∃ added, Begins walk tick taken.1 added
  remembers : taken.1.lastStep = if walk.completes tick then some tick.now else last

theorem moderate_take (walk : RandomWalk) (tick : Tick) :
    Moderate walk walk.lastStep tick (walk.take tick) where
  rests target wanted many := by
    have satisfied : walk.isSatisfied tick.activity = true := by
      rw [isSatisfied, wanted]
      exact decide_eq_true many
    rw [take_eq, if_pos satisfied]
  early time stamped early := by
    cases completed : walk.completes tick with
    | true => exact absurd early (Nat.not_lt.2 (interval_le_of_completes completed stamped))
    | false => exact ((walk.stride_take tick).held completed).1
  full limited many := by
    have full : (walk.dropExpired tick.now).isWindowFull = true := by
      rw [isWindowFull, Bool.and_eq_true]
      exact ⟨decide_eq_true limited, decide_eq_true many⟩
    exact ((walk.stride_take tick).held (not_completes_of_isWindowFull full)).1
  begins := (walk.stride_take tick).begins
  remembers := by
    cases completed : walk.completes tick with
    | true => exact (walk.stride_take tick).stamped completed
    | false => exact ((walk.stride_take tick).held completed).2

/-- What a run of steps leads to. -/
structure Paced (settings : WalkSettings) (ticks : List Tick) : Prop where
  keeps : ((start settings).after ticks).settings = settings
  window : 0 < settings.window →
    ((start settings).after ticks).inFlight.size ≤ settings.window
  spaced : ((start settings).completions ticks).Pairwise fun first second =>
    settings.interval ≤ first.elapsed second
  /-- The next step, whenever it is and whatever has happened by then. -/
  next : ∀ tick, Moderate ((start settings).after ticks)
    ((start settings).completions ticks).getLast? tick (((start settings).after ticks).take tick)

/-- A random walk keeps to its window and its interval, whatever happens to the overlay and to
the registry between its steps. -/
theorem paced_run (settings : WalkSettings) (ticks : List Tick) : Paced settings ticks where
  keeps := (start settings).settings_after ticks
  window limited := bounded_after ticks limited (Nat.zero_le _)
  spaced := ((start settings).spaced_completions ticks).1
  next tick := by
    have remembered : ((start settings).after ticks).lastStep =
        ((start settings).completions ticks).getLast? :=
      ((start settings).lastStep_after ticks).trans Option.or_none
    rw [← remembered]
    exact ((start settings).after ticks).moderate_take tick

end RandomWalk

end PeerDiscovery
