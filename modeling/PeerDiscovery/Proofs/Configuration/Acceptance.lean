import Mathlib.Data.List.Forall2
import PeerDiscovery.Proofs.Configuration.Texts
import PeerDiscovery.Proofs.Node.Life

/-!
# Which configurations are accepted

A configuration is checked in several places: its texts when they are read, each overlay when it
is planned, the settings as a whole when a node is made of them.  `Acceptable` says in one place
what all of this comes to.  A configuration that is accepted gives the settings that it
describes, overlay by overlay, and a node can be made of them.
-/

namespace PeerDiscovery

section

variable {Cause Input Output : Type} {step : Input → Except Cause Output}

/-- Steps taken for each item of a list succeed together if each of them does. -/
theorem mapM_eq_ok_iff {inputs : List Input} {outputs : List Output} :
    inputs.mapM step = .ok outputs ↔
      List.Forall₂ (fun input output => step input = .ok output) inputs outputs := by
  induction inputs generalizing outputs with
  | nil =>
    rw [List.mapM_nil, List.forall₂_nil_left_iff]
    exact ⟨fun same => (Except.ok.inj same).symm, fun none => none ▸ rfl⟩
  | cons input others ih =>
    rw [List.mapM_cons, bind_eq_ok_iff, List.forall₂_cons_left_iff]
    refine exists_congr fun output => ?_
    rw [bind_eq_ok_iff]
    constructor
    · rintro ⟨first, later, rest, ⟨⟩⟩
      exact ⟨later, first, ih.1 rest, rfl⟩
    · rintro ⟨later, first, rest, rfl⟩
      exact ⟨first, later, ih.2 rest, rfl⟩

theorem exists_mapM_eq_ok_iff {inputs : List Input} :
    (∃ outputs, inputs.mapM step = .ok outputs) ↔
      ∀ input ∈ inputs, ∃ output, step input = .ok output := by
  simp only [mapM_eq_ok_iff]
  induction inputs with
  | nil => simp
  | cons input others ih =>
    simp only [List.forall₂_cons_left_iff, List.forall_mem_cons, ← ih]
    constructor
    · rintro ⟨-, output, later, first, rest, rfl⟩
      exact ⟨⟨output, first⟩, later, rest⟩
    · rintro ⟨⟨output, first⟩, later, rest⟩
      exact ⟨_, output, later, first, rest, rfl⟩

/-- A row of checks succeeds if nothing is wrong that the first one asks for, and the later ones
succeed. -/
theorem guard_eq_ok_iff {bad : Prop} [Decidable bad] {cause : Cause}
    {later : Except Cause Output} {output : Output} :
    (if bad then (do let _ ← (throw cause : Except Cause PUnit); later) else later) =
        .ok output ↔ ¬bad ∧ later = .ok output := by
  by_cases fault : bad
  · rw [if_pos fault]
    exact iff_of_false nofun fun both => both.1 fault
  · rw [if_neg fault]
    exact (and_iff_right fault).symm

/-- What means the same for two items that belong together is so of all of the one list exactly
if it is so of all of the other. -/
theorem forall_mem_iff_of_forall₂ {relates : Input → Output → Prop} {left : Input → Prop}
    {right : Output → Prop} (same : ∀ input output, relates input output →
      (left input ↔ right output)) {inputs : List Input} {outputs : List Output}
    (related : List.Forall₂ relates inputs outputs) :
    (∀ input ∈ inputs, left input) ↔ ∀ output ∈ outputs, right output := by
  induction related with
  | nil => simp
  | cons first rest ih => rw [List.forall_mem_cons, List.forall_mem_cons, same _ _ first, ih]

end

structure WalkEntry.Describes (entry : WalkEntry) (settings : WalkSettings) : Prop where
  timeout : entry.timeout.toDuration? = some settings.timeout
  window : settings.window = entry.window
  interval : settings.interval = Duration.ofSeconds entry.interval
  targetPeers : IsLimit entry.peers settings.targetPeers

theorem WalkEntry.settings_eq_ok_iff {entry : WalkEntry} {settings : WalkSettings} :
    entry.settings = .ok settings ↔ entry.Describes settings := by
  unfold WalkEntry.settings
  constructor
  · intro made
    split at made
    · cases made
    · rename_i timeout told
      cases made
      exact ⟨told, rfl, rfl, limitOf_eq_iff.1 rfl⟩
  · intro described
    obtain ⟨timeout, window, interval, targetPeers⟩ := settings
    obtain ⟨told, rfl, rfl, limited⟩ := described
    dsimp only at told limited
    rw [told, ← limitOf_eq_iff.2 limited]

namespace OverlayEntry

/-- The plan of an overlay is what is written down; what cannot be written down has its default. -/
structure Describes (entry : OverlayEntry) (plan : OverlayPlan) : Prop where
  service : ServiceId.ofText entry.service = .ok plan.service
  bootstrap : List.Forall₂ (fun text address => Address.ofText text = .ok address)
    entry.bootstrap plan.settings.bootstrap
  maxPeers : IsLimit entry.maxPeers plan.settings.maxPeers
  bootstrapInterval : plan.settings.bootstrapInterval = Duration.ofSeconds 5
  resetChance : plan.settings.resetChance = .half
  walking : entry.walk.enabled = true → ∃ walk, plan.walks = [walk] ∧ entry.walk.Describes walk
  resting : entry.walk.enabled = false → plan.walks = []
  handlers : plan.handlers = []

theorem serviceId_eq_ok_iff {entry : OverlayEntry} {service : ServiceId} :
    entry.serviceId = .ok service ↔ ServiceId.ofText entry.service = .ok service := by
  unfold serviceId
  cases ServiceId.ofText entry.service <;> simp

theorem bootstrapAddress_eq_ok_iff {text : String} {address : Address} :
    bootstrapAddress text = .ok address ↔ Address.ofText text = .ok address := by
  unfold bootstrapAddress
  cases Address.ofText text <;> simp

def walks (entry : OverlayEntry) : Except ConfigurationError (List WalkSettings) :=
  if entry.walk.enabled then entry.walk.settings.map ([·]) else .ok []

theorem plan_eq (entry : OverlayEntry) : entry.plan = do
    let service ← entry.serviceId
    let bootstrap ← entry.bootstrap.mapM bootstrapAddress
    let walks ← entry.walks
    return { settings := { service, bootstrap, maxPeers := limitOf entry.maxPeers }, walks } := by
  unfold OverlayEntry.plan walks
  split <;> rfl

theorem walks_eq_ok_iff {entry : OverlayEntry} {walks : List WalkSettings} :
    entry.walks = .ok walks ↔
      (entry.walk.enabled = true → ∃ walk, walks = [walk] ∧ entry.walk.Describes walk) ∧
        (entry.walk.enabled = false → walks = []) := by
  unfold OverlayEntry.walks
  by_cases enabled : entry.walk.enabled = true
  · rw [if_pos enabled]
    simp only [enabled, ← WalkEntry.settings_eq_ok_iff]
    cases entry.walk.settings <;> simp [Except.map, eq_comm]
  · rw [if_neg enabled]
    simp [enabled, eq_comm]

theorem plan_eq_ok_iff {entry : OverlayEntry} {plan : OverlayPlan} :
    entry.plan = .ok plan ↔ entry.Describes plan := by
  simp only [plan_eq, bind_eq_ok_iff, serviceId_eq_ok_iff, mapM_eq_ok_iff,
    bootstrapAddress_eq_ok_iff, walks_eq_ok_iff]
  constructor
  · rintro ⟨service, spelled, bootstrap, read, walks, ⟨walking, resting⟩, ⟨⟩⟩
    exact
      { service := spelled
        bootstrap := read
        maxPeers := limitOf_eq_iff.1 rfl
        bootstrapInterval := rfl
        resetChance := rfl
        walking := walking
        resting := resting
        handlers := rfl }
  · intro described
    obtain ⟨⟨service, maxPeers, bootstrap, interval, chance⟩, walks, handlers⟩ := plan
    obtain ⟨spelled, read, limited, rfl, rfl, walking, resting, rfl⟩ := described
    refine ⟨service, spelled, bootstrap, read, walks, ⟨walking, resting⟩, ?_⟩
    rw [limitOf_eq_iff.2 limited]
    rfl

/-- Whatever the owner writes down for an overlay can be read. -/
structure Readable (entry : OverlayEntry) : Prop where
  service : ServiceId.IsSpelled entry.service
  bootstrap : ∀ text ∈ entry.bootstrap, ∃ address, Address.ofText text = .ok address
  timeout : entry.walk.enabled = true → entry.walk.timeout.IsSpan

theorem exists_describes_iff {entry : OverlayEntry} :
    (∃ plan, entry.Describes plan) ↔ entry.Readable := by
  constructor
  · rintro ⟨plan, described⟩
    refine ⟨ServiceId.exists_ofText_iff.1 ⟨_, described.service⟩, ?_, fun enabled => ?_⟩
    · have read := mapM_eq_ok_iff.2 described.bootstrap
      exact exists_mapM_eq_ok_iff.1 ⟨_, read⟩
    · obtain ⟨walk, -, told⟩ := described.walking enabled
      exact (Binary64.exists_toDuration?_iff _).1 ⟨_, told.timeout⟩
  · intro readable
    obtain ⟨service, spelled⟩ := ServiceId.exists_ofText_iff.2 readable.service
    obtain ⟨bootstrap, read⟩ := exists_mapM_eq_ok_iff.2 readable.bootstrap
    have written : ∃ walks, entry.walks = .ok walks := by
      unfold OverlayEntry.walks
      by_cases enabled : entry.walk.enabled = true
      · obtain ⟨timeout, told⟩ := (Binary64.exists_toDuration?_iff _).2 (readable.timeout enabled)
        rw [if_pos enabled, WalkEntry.settings, told]
        exact ⟨_, rfl⟩
      · rw [if_neg enabled]
        exact ⟨[], rfl⟩
    obtain ⟨walks, written⟩ := written
    have addresses : entry.bootstrap.mapM bootstrapAddress = .ok bootstrap := by
      simpa only [mapM_eq_ok_iff, bootstrapAddress_eq_ok_iff] using read
    have made : entry.plan =
        .ok { settings := { service, bootstrap, maxPeers := limitOf entry.maxPeers }, walks } := by
      rw [plan_eq, serviceId_eq_ok_iff.2 spelled, addresses, written]
      rfl
    exact ⟨_, plan_eq_ok_iff.1 made⟩

end OverlayEntry

namespace OverlayPlan

theorem validate_eq_ok_iff {plan : OverlayPlan} (usual : plan.settings.resetChance = .half) :
    plan.validate = .ok () ↔ ∀ address ∈ plan.settings.bootstrap, address ≠ .empty := by
  have fraction : Binary64.half.isFraction = true := by decide +kernel
  unfold OverlayPlan.validate OverlaySettings.validate
  rw [usual, fraction]
  cases empties : plan.settings.bootstrap.any Address.isEmpty with
  | true =>
    obtain ⟨address, listed, isEmpty⟩ := List.any_eq_true.1 empties
    have isEmpty : address = .empty := by simpa [Address.isEmpty] using isEmpty
    simp only [Bool.not_true, Bool.false_eq_true, if_false, if_true, reduceCtorEq, false_iff]
    exact fun proper => proper address listed isEmpty
  | false =>
    simp only [Bool.not_true, Bool.false_eq_true, if_false, true_iff]
    intro address listed isEmpty
    have proper := List.any_eq_false.1 empties address listed
    rw [isEmpty] at proper
    exact proper (by decide)

end OverlayPlan

namespace NodeSettings

theorem validateOverlays_of_sound {earlier : List ServiceId} {plans : List OverlayPlan}
    (sound : OverlayPlan.Sound plans) (new : ∀ plan ∈ plans, plan.service ∉ earlier) :
    validateOverlays earlier plans = .ok () := by
  induction plans generalizing earlier with
  | nil => rfl
  | cons plan others ih =>
    obtain ⟨elsewhere, apart⟩ := List.nodup_cons.1 sound.apart
    obtain ⟨valid, others_valid⟩ := List.forall_mem_cons.1 sound.valid
    have unlisted : earlier.contains plan.service = false := by
      simpa using new plan List.mem_cons_self
    have newer : ∀ other ∈ others, other.service ∉ plan.service :: earlier := by
      intro other listed again
      rcases List.mem_cons.1 again with same | before
      · exact elsewhere (List.mem_map.2 ⟨other, listed, same⟩)
      · exact new other (List.mem_cons_of_mem plan listed) before
    rw [validateOverlays, valid, unlisted]
    exact ih ⟨others_valid, apart⟩ newer

theorem validate_eq_ok_iff {settings : NodeSettings} :
    settings.validate = .ok () ↔ settings.walkInterval ≠ 0 ∧ settings.lanInterval ≠ 0 ∧
      OverlayPlan.Sound settings.overlays := by
  constructor
  · intro validated
    have sound := sound_of_validate validated
    unfold validate at validated
    split at validated
    · cases validated
    · split at validated
      · cases validated
      · exact ⟨‹_›, ‹_›, sound⟩
  · rintro ⟨walk, lan, sound⟩
    rw [validate, if_neg walk, if_neg lan]
    exact validateOverlays_of_sound sound fun _ _ => List.not_mem_nil

end NodeSettings

namespace Configuration

structure Describes (configuration : Configuration) (settings : NodeSettings) : Prop where
  listen : SocketAddress.ofText configuration.listen = .ok settings.listen
  walkInterval : settings.walkInterval = Duration.ofSeconds configuration.walkInterval
  lanInterval : settings.lanInterval = Duration.ofSeconds configuration.lanInterval
  overlays : List.Forall₂ OverlayEntry.Describes configuration.overlays settings.overlays

theorem listenAddress_eq_ok_iff {configuration : Configuration} {address : SocketAddress} :
    configuration.listenAddress = .ok address ↔
      SocketAddress.ofText configuration.listen = .ok address := by
  unfold listenAddress
  cases SocketAddress.ofText configuration.listen <;> simp

theorem settings_eq_ok_iff {configuration : Configuration} {settings : NodeSettings} :
    configuration.settings = .ok settings ↔ configuration.Describes settings := by
  unfold Configuration.settings
  simp only [bind_eq_ok_iff, mapM_eq_ok_iff, OverlayEntry.plan_eq_ok_iff, listenAddress_eq_ok_iff]
  constructor
  · rintro ⟨overlays, planned, listen, read, ⟨⟩⟩
    exact ⟨read, rfl, rfl, planned⟩
  · intro described
    obtain ⟨listen, walkInterval, lanInterval, overlays⟩ := settings
    obtain ⟨read, rfl, rfl, planned⟩ := described
    exact ⟨overlays, planned, listen, read, rfl⟩

/-- What a configuration has to be like. -/
structure Acceptable (configuration : Configuration) : Prop where
  listen : ∃ address, SocketAddress.ofText configuration.listen = .ok address
  walkInterval : configuration.walkInterval ≠ 0
  lanInterval : configuration.lanInterval ≠ 0
  logLevel : ∃ name ∈ logLevels, SameUpToCase configuration.logLevel name
  services : ∀ entry ∈ configuration.overlays, ServiceId.IsSpelled entry.service
  bootstrap : ∀ entry ∈ configuration.overlays, ∀ text ∈ entry.bootstrap,
    ∃ address, Address.ofText text = .ok address ∧ address ≠ .empty
  timeouts : ∀ entry ∈ configuration.overlays, entry.walk.enabled = true →
    entry.walk.timeout.IsSpan
  apart : configuration.overlays.Pairwise fun entry later =>
    ServiceId.ofText entry.service ≠ ServiceId.ofText later.service

/-- A configuration is checked text by text and number by number, and then as a whole. -/
theorem validate_eq_ok_iff {configuration : Configuration} :
    configuration.validate = .ok () ↔
      configuration.walkInterval ≠ 0 ∧ configuration.lanInterval ≠ 0 ∧
        isLogLevel configuration.logLevel = true ∧
        ∃ settings, configuration.Describes settings ∧ settings.validate = .ok () := by
  unfold Configuration.validate
  simp only [bind_eq_ok_iff, guard_eq_ok_iff, listenAddress_eq_ok_iff, settings_eq_ok_iff]
  constructor
  · rintro ⟨-, -, walk, lan, level, settings, described, checked⟩
    refine ⟨walk, lan, by simpa using level, settings, described, ?_⟩
    split at checked
    · assumption
    · cases checked
  · rintro ⟨walk, lan, level, settings, described, valid⟩
    refine ⟨settings.listen, described.listen, walk, lan, by simpa using level, settings,
      described, ?_⟩
    rw [valid]
    rfl

theorem exists_describes_iff {configuration : Configuration} :
    (∃ settings, configuration.Describes settings) ↔
      (∃ address, SocketAddress.ofText configuration.listen = .ok address) ∧
        ∀ entry ∈ configuration.overlays, entry.Readable := by
  have planned : (∃ overlays, List.Forall₂ OverlayEntry.Describes configuration.overlays overlays) ↔
      ∀ entry ∈ configuration.overlays, entry.Readable := by
    have read : (∃ overlays, configuration.overlays.mapM OverlayEntry.plan = .ok overlays) ↔
        ∀ entry ∈ configuration.overlays, ∃ plan, entry.plan = .ok plan := exists_mapM_eq_ok_iff
    simpa only [mapM_eq_ok_iff, OverlayEntry.plan_eq_ok_iff,
      OverlayEntry.exists_describes_iff] using read
  rw [← planned]
  constructor
  · rintro ⟨settings, described⟩
    exact ⟨⟨_, described.listen⟩, _, described.overlays⟩
  · rintro ⟨⟨listen, read⟩, overlays, described⟩
    exact ⟨⟨listen, _, _, overlays⟩, read, rfl, rfl, described⟩

section

variable {configuration : Configuration} {settings : NodeSettings}

/-- The plans have the services that the texts of the overlays spell. -/
theorem Describes.services (described : configuration.Describes settings) :
    configuration.overlays.map (fun entry => ServiceId.ofText entry.service) =
      settings.overlays.map fun plan => .ok plan.service := by
  rw [← List.forall₂_eq_eq_eq, List.forall₂_map_left_iff, List.forall₂_map_right_iff]
  exact described.overlays.imp fun entry plan planned => planned.service

theorem Describes.apart_iff (described : configuration.Describes settings) :
    (settings.overlays.map (·.service)).Nodup ↔ configuration.overlays.Pairwise
      fun entry later => ServiceId.ofText entry.service ≠ ServiceId.ofText later.service := by
  rw [← List.pairwise_map, described.services, List.pairwise_map, List.Nodup, List.pairwise_map]
  simp only [ne_eq, Except.ok.injEq]

/-- An overlay has no fault if none of the addresses that are written down for it is empty. -/
theorem Describes.valid_iff (described : configuration.Describes settings) :
    (∀ plan ∈ settings.overlays, plan.validate = .ok ()) ↔
      ∀ entry ∈ configuration.overlays, ∀ text ∈ entry.bootstrap,
        Address.ofText text ≠ .ok .empty := by
  refine (forall_mem_iff_of_forall₂ (fun entry plan planned => ?_) described.overlays).symm
  rw [OverlayPlan.validate_eq_ok_iff planned.resetChance]
  refine forall_mem_iff_of_forall₂ (fun text address read => ?_) planned.bootstrap
  rw [read, ne_eq, Except.ok.injEq]

theorem Describes.validate_iff (described : configuration.Describes settings) :
    settings.validate = .ok () ↔ configuration.walkInterval ≠ 0 ∧ configuration.lanInterval ≠ 0 ∧
      (∀ entry ∈ configuration.overlays, ∀ text ∈ entry.bootstrap,
        Address.ofText text ≠ .ok .empty) ∧
      configuration.overlays.Pairwise fun entry later =>
        ServiceId.ofText entry.service ≠ ServiceId.ofText later.service := by
  have seconds : ∀ count, Duration.ofSeconds count = 0 ↔ count = 0 := by
    intro count
    change count * 1000000000 = 0 ↔ count = 0
    omega
  have sound : OverlayPlan.Sound settings.overlays ↔
      (∀ plan ∈ settings.overlays, plan.validate = .ok ()) ∧
        (settings.overlays.map (·.service)).Nodup :=
    ⟨fun sound => ⟨sound.valid, sound.apart⟩, fun both => ⟨both.1, both.2⟩⟩
  rw [NodeSettings.validate_eq_ok_iff, sound, described.valid_iff, described.apart_iff,
    described.walkInterval, described.lanInterval, ne_eq, ne_eq, seconds, seconds]

end

theorem validate_eq_ok_iff_acceptable {configuration : Configuration} :
    configuration.validate = .ok () ↔ configuration.Acceptable := by
  rw [validate_eq_ok_iff]
  constructor
  · rintro ⟨walk, lan, level, settings, described, valid⟩
    obtain ⟨listen, readable⟩ := exists_describes_iff.1 ⟨settings, described⟩
    obtain ⟨-, -, proper, apart⟩ := described.validate_iff.1 valid
    exact
      { listen := listen
        walkInterval := walk
        lanInterval := lan
        logLevel := (isLogLevel_iff _).1 level
        services := fun entry listed => (readable entry listed).service
        bootstrap := by
          intro entry listed text written
          obtain ⟨address, read⟩ := (readable entry listed).bootstrap text written
          refine ⟨address, read, fun isEmpty => proper entry listed text written ?_⟩
          rw [read, isEmpty]
        timeouts := fun entry listed => (readable entry listed).timeout
        apart := apart }
  · intro acceptable
    have readable : ∀ entry ∈ configuration.overlays, entry.Readable := by
      intro entry listed
      refine ⟨acceptable.services entry listed, fun text written => ?_,
        acceptable.timeouts entry listed⟩
      obtain ⟨address, read, -⟩ := acceptable.bootstrap entry listed text written
      exact ⟨address, read⟩
    have proper : ∀ entry ∈ configuration.overlays, ∀ text ∈ entry.bootstrap,
        Address.ofText text ≠ .ok .empty := by
      intro entry listed text written isEmpty
      obtain ⟨address, read, nonempty⟩ := acceptable.bootstrap entry listed text written
      exact nonempty (Except.ok.inj (read.symm.trans isEmpty))
    obtain ⟨settings, described⟩ := exists_describes_iff.2 ⟨acceptable.listen, readable⟩
    exact ⟨acceptable.walkInterval, acceptable.lanInterval, (isLogLevel_iff _).2 acceptable.logLevel,
      settings, described, described.validate_iff.2
        ⟨acceptable.walkInterval, acceptable.lanInterval, proper, acceptable.apart⟩⟩

/-- A configuration is judged by what it has to be like, and runs as it says. -/
structure Judged (configuration : Configuration) : Prop where
  accepts : configuration.validate = .ok () ↔ configuration.Acceptable
  collide : ∀ entry ∈ configuration.overlays, ∀ other ∈ configuration.overlays,
    ServiceId.IsSpelled entry.service →
      (ServiceId.ofText entry.service = ServiceId.ofText other.service ↔
        SameUpToCase entry.service other.service)
  settles : configuration.validate = .ok () →
    ∃ settings, configuration.settings = .ok settings ∧ configuration.Describes settings
  runs : configuration.validate = .ok () → ∀ settings, configuration.settings = .ok settings →
    ∀ key bound, ∃ node, Node.create settings key bound = .ok node ∧ node.settings = settings

/-- Every configuration is accepted exactly if it is as it has to be, and then a node can be made
of what it describes. -/
theorem isJudged (configuration : Configuration) : configuration.Judged where
  accepts := validate_eq_ok_iff_acceptable
  collide := fun _ _ _ _ spelled => ServiceId.ofText_eq_iff spelled
  settles := by
    intro accepted
    obtain ⟨-, -, -, settings, described, -⟩ := validate_eq_ok_iff.1 accepted
    exact ⟨settings, settings_eq_ok_iff.2 described, described⟩
  runs := by
    intro accepted settings made key bound
    obtain ⟨-, -, -, checked, described, valid⟩ := validate_eq_ok_iff.1 accepted
    have same : checked = settings :=
      Except.ok.inj ((settings_eq_ok_iff.2 described).symm.trans made)
    rw [same] at valid
    rw [Node.create, valid]
    exact ⟨_, rfl, rfl⟩

/-- The usual configuration is accepted, -/
example : (default "").validate = .ok () := by decide +kernel

/-- but not if its overlay is written down once more in capital letters. -/
example : { default "" with overlays :=
    [{ service := discoveryService }, { service := discoveryService.toUpper }] }.validate ≠
      .ok () := by
  decide +kernel

end Configuration

end PeerDiscovery
