import PeerDiscovery.Proofs.Network.Honesty

/-!
# Honest networks under any schedule

The hosts of a network act of their own accord, and the datagrams they send are
delivered in any order, never, or several times: the queue of the switch is
kept as the history of all that was sent, and any datagram of it may be
delivered at any time to a host whose address is its destination.

The invariant is that every host is honest with respect to the history.  An
activity of one host keeps it for this host by the steps that make it up, and
for the others because the history only grows.
-/

namespace PeerDiscovery

theorem sentBy_append (history later : List Transit) (source : Address) :
    sentBy (history ++ later) source = sentBy history source + sentBy later source :=
  List.countP_append

theorem sentBy_posted (sent : List Datagram) (source address : Address) :
    sentBy (sent.map fun datagram => ⟨source, datagram.destination, datagram.data⟩) address =
      if source = address then sent.length else 0 := by
  unfold sentBy
  rw [List.countP_map]
  by_cases same : source = address
  · rw [if_pos same, List.countP_eq_length]
    intro datagram posted
    exact beq_iff_eq.2 same
  · rw [if_neg same, List.countP_eq_zero]
    intro datagram posted
    simpa using same

namespace Network

variable {network : Network} {history later : List Transit}

theorem Timely.grow {registry : Registry} (timely : network.Timely history registry)
    (later : List Transit) : network.Timely (history ++ later) registry := by
  refine Registry.Records.imp timely ?_
  intro member peer bounded other inside named
  have before := bounded other inside named
  rw [sentBy_append]
  omega

/-- A host that has finished an activity is honest once its datagrams are part of
the history; a host that did nothing stays honest while others send. -/
theorem Honest.settle {host : Host} {activity : Activity}
    (honest : network.Honest history host activity)
    (own : sentBy later host.wan = activity.sent.length) (moment : Moment) :
    network.Honest (history ++ later) host
      (.start activity.overlay activity.known moment) where
  guarded := by
    refine ⟨honest.guarded.configured, honest.guarded.builtIn, honest.guarded.registry.mono ?_⟩
    rw [List.map_append]
    exact List.subset_append_left _ _
  key := honest.key
  lan := honest.lan
  time := by
    rw [sentBy_append, own]
    exact honest.time
  clocks := honest.clocks.grow later
  addresses := honest.addresses
  reports := honest.reports
  letters := by
    intro datagram posted
    cases posted

theorem Written.append (written : network.Written history) {host : Host}
    (inside : host ∈ network.hosts) {activity : Activity}
    (honest : network.Honest history host activity) :
    network.Written (history ++ activity.sent.map fun datagram =>
      ⟨host.wan, datagram.destination, datagram.data⟩) := by
  intro transit sent
  rcases List.mem_append.1 sent with before | posted
  · obtain ⟨other, there, source, time, reached, letter⟩ := written transit before
    refine ⟨other, there, source, time, ?_, letter⟩
    rw [sentBy_append]
    omega
  · obtain ⟨datagram, listed, rfl⟩ := List.mem_map.1 posted
    obtain ⟨time, reached, letter⟩ := honest.letters datagram listed
    refine ⟨host, inside, rfl, time, ?_, letter⟩
    rw [sentBy_append, sentBy_posted, if_pos rfl]
    exact reached

end Network

namespace Network

inductive Event where
  | acts (place : Nat) (now : Instant) (initiative : Initiative)
  | delivers (datagram place : Nat) (now : Instant) (pick : Nat)

def happen (switch : Switch) : Event → Switch
  | .acts place now initiative => switch.act place now (·.takeInitiative initiative)
  | .delivers datagram place now pick =>
    match switch.queue[datagram]?, switch.stations[place]? with
    | some transit, some station =>
      if station.lan = transit.destination ∨ station.wan = transit.destination then
        switch.act place now (·.receive transit.packet pick)
      else switch
    | _, _ => switch

def start (network : Network) (moment : Moment) : Switch :=
  { stations := network.hosts.mapIdx fun home host => host.station home moment
    neighbourhoods := network.hosts.map fun host => (host.joined moment).known
    queue := []
    notices := [] }

def run (network : Network) (moment : Moment) (events : List Event) : Switch :=
  events.foldl happen (network.start moment)

structure Hosted (network : Network) (switch : Switch) (place : Nat) (host : Host)
    (station : Station) : Prop where
  home : station.home = place
  known : place < switch.neighbourhoods.length
  lan : station.lan = host.lan
  wan : station.wan = host.wan
  honest : ∀ now, network.Honest switch.queue host (switch.begin station now)

/-- Every host is at its place, and all that was sent was written by them. -/
structure Sound (network : Network) (switch : Switch) : Prop where
  written : network.Written switch.queue
  hosted : ∀ (place : Nat) (host : Host), network.hosts[place]? = some host →
    ∃ station, switch.stations[place]? = some station ∧
      network.Hosted switch place host station
  nobodyElse : ∀ (place : Nat) (station : Station), switch.stations[place]? = some station →
    ∃ host, network.hosts[place]? = some host

variable {network : Network} {switch : Switch}

theorem honest_joined (host : Host) (moment later : Moment) :
    network.Honest [] host
      (.start (host.joined moment).overlay (host.joined moment).known later) := by
  have guarded := (Activity.guarded_joined host.key host.settings moment).adoptLan host.lan
  have overlay := host.overlay_joined moment
  have registry := host.registry_joined moment
  have log := host.wanLog_joined moment
  refine
    { guarded := ⟨guarded.configured, guarded.builtIn, guarded.registry⟩
      key := congrArg Overlay.key overlay
      lan := congrArg Overlay.lan overlay
      time := congrArg Overlay.globalTime overlay
      clocks := ?_
      addresses := ?_
      reports := ?_
      letters := ?_ }
  · intro member peer stored
    have nobody : (host.joined moment).known.registry.verified[member]? = some peer := stored
    rw [registry] at nobody
    simp at nobody
  · intro address listed
    have nowhere : address ∈ (host.joined moment).known.registry.addresses := listed
    rw [registry] at nowhere
    simp at nowhere
  · have silent : (host.joined moment).known.wanLog.Agrees host.lan host.wan := by
      rw [log]
      exact .empty _ _
    exact silent
  · intro datagram posted
    cases posted

theorem sound_start (network : Network) (moment : Moment) :
    network.Sound (network.start moment) where
  written := by
    intro transit sent
    cases sent
  hosted := by
    intro place host found
    have inside : place < network.hosts.length := (List.getElem?_eq_some_iff.1 found).1
    have there : (network.start moment).stations[place]? = some (host.station place moment) := by
      simp [start, found]
    have knows : (network.start moment).knownTo (host.station place moment) =
        (host.joined moment).known := by
      simp [start, Switch.knownTo, Host.station, found]
    refine ⟨_, there, rfl, by simpa [start] using inside, rfl, rfl, ?_⟩
    intro now
    rw [Switch.begin, knows]
    exact honest_joined host moment _
  nobodyElse := by
    intro place station there
    have bound : place < network.hosts.length := by
      simpa [start] using (List.getElem?_eq_some_iff.1 there).1
    exact ⟨_, List.getElem?_eq_getElem bound⟩

section Complete

variable {place : Nat} {host : Host} {station : Station} {activity : Activity}

/-- A host that acts is honest about what it has posted. -/
theorem Hosted.complete (hosted : network.Hosted switch place host station)
    (worked : network.Honest switch.queue host activity) :
    network.Hosted (switch.complete place station activity) place host
      (station.after activity) where
  home := hosted.home
  known := by simpa [Switch.complete] using hosted.known
  lan := hosted.lan
  wan := hosted.wan
  honest := by
    intro now
    have knows : (switch.complete place station activity).knownTo (station.after activity) =
        activity.known := by
      simp [Switch.complete, Switch.knownTo, Station.after, hosted.home, hosted.known]
    have own : sentBy (station.posts activity) host.wan = activity.sent.length := by
      rw [Station.posts, sentBy_posted, if_pos hosted.wan]
    rw [Switch.begin, knows]
    exact worked.settle own _

/-- While one host acts, the others stay as they are. -/
theorem Hosted.complete_other (hosted : network.Hosted switch place host station) {other : Nat}
    {neighbour : Host} {theirs : Station}
    (hostedToo : network.Hosted switch other neighbour theirs) (differ : place ≠ other)
    (wans : host.wan ≠ neighbour.wan) :
    network.Hosted (switch.complete place station activity) other neighbour theirs where
  home := hostedToo.home
  known := by simpa [Switch.complete] using hostedToo.known
  lan := hostedToo.lan
  wan := hostedToo.wan
  honest := by
    intro now
    have knows : (switch.complete place station activity).knownTo theirs =
        switch.knownTo theirs := by
      simp [Switch.complete, Switch.knownTo, hosted.home, hostedToo.home, differ]
    have none : sentBy (station.posts activity) neighbour.wan = 0 := by
      rw [Station.posts, sentBy_posted, hosted.wan, if_neg wans]
    rw [Switch.begin, knows]
    exact (hostedToo.honest now).settle none _

end Complete

/-- An activity that keeps its host honest keeps the network sound. -/
theorem Sound.act (sound : network.Sound switch) (place : Nat) (now : Instant)
    {work : Activity → Activity}
    (kept : ∀ (host : Host) (station : Station), network.hosts[place]? = some host →
      switch.stations[place]? = some station →
      network.Honest switch.queue host (switch.begin station now) →
      network.Honest switch.queue host (work (switch.begin station now))) :
    network.Sound (switch.act place now work) := by
  cases there : switch.stations[place]? with
  | none =>
      rw [Switch.act, there]
      exact sound
  | some station =>
      obtain ⟨host, found⟩ := sound.nobodyElse place station there
      obtain ⟨same, sameThere, hosted⟩ := sound.hosted place host found
      cases Option.some.inj (sameThere.symm.trans there)
      have worked := kept host station found there (hosted.honest now)
      have acted : switch.act place now work =
          switch.complete place station (work (switch.begin station now)) := by
        rw [Switch.act, there]
      rw [acted]
      generalize work (switch.begin station now) = activity at worked
      have inside : place < switch.stations.length := (List.getElem?_eq_some_iff.1 there).1
      refine { written := ?_, hosted := ?_, nobodyElse := ?_ }
      · have written := sound.written.append (List.mem_of_getElem? found) worked
        rw [← hosted.wan] at written
        exact written
      · intro other neighbour otherFound
        by_cases here : place = other
        · subst here
          cases Option.some.inj (otherFound.symm.trans found)
          exact ⟨_, List.getElem?_set_self inside, hosted.complete worked⟩
        · obtain ⟨theirs, otherThere, hostedToo⟩ := sound.hosted other neighbour otherFound
          have wans : host.wan ≠ neighbour.wan := by
            rcases network.apart_of_ne found otherFound here with apart | apart
            · exact apart.wans
            · exact apart.wans.symm
          refine ⟨theirs, ?_, hosted.complete_other hostedToo here wans⟩
          rw [← otherThere]
          exact List.getElem?_set_ne here
      · intro other theirs otherThere
        have bound : other < switch.stations.length := by
          simpa [Switch.complete] using (List.getElem?_eq_some_iff.1 otherThere).1
        exact sound.nobodyElse other _ (List.getElem?_eq_getElem bound)

theorem Sound.happen (sound : network.Sound switch) (event : Event) :
    network.Sound (happen switch event) := by
  cases event with
  | acts place now initiative =>
      rw [Network.happen]
      refine sound.act place now ?_
      intro host station found there honest
      exact Honest.kept.takeInitiative honest initiative
  | delivers datagram place now pick =>
      rw [Network.happen]
      split
      · rename_i transit station queued there
        split
        · rename_i addressed
          refine sound.act place now ?_
          intro host station' found there' honest
          obtain ⟨same, sameThere, hosted⟩ := sound.hosted place host found
          cases Option.some.inj (sameThere.symm.trans there)
          rw [hosted.lan, hosted.wan] at addressed
          exact honest.receive sound.written (List.mem_of_getElem? found)
            (List.mem_of_getElem? queued) addressed pick
        · exact sound
      · exact sound

theorem sound_run (network : Network) (moment : Moment) (events : List Event) :
    network.Sound (network.run moment events) := by
  have general : ∀ switch, network.Sound switch →
      network.Sound (events.foldl Network.happen switch) := by
    induction events with
    | nil => exact fun _ sound => sound
    | cons event later ih => exact fun switch sound => ih _ (sound.happen event)
  exact general _ (network.sound_start moment)

/-- Whatever a host believes of others and of itself is true. -/
structure Believes (network : Network) (switch : Switch) (host : Host) (station : Station) :
    Prop where
  lan : station.overlay.lan = host.lan
  /-- The global time counts the datagrams that were sent, and wraps around. -/
  time : station.overlay.globalTime = UInt64.ofNat (sentBy switch.queue host.wan)
  /-- A verified peer is another host, and its clock is not ahead of that host's own one
  until that one wraps around. -/
  peers : (switch.knownTo station).registry.Records fun member peer =>
    ∃ (place : Nat) (other : Host) (theirs : Station),
      network.hosts[place]? = some other ∧ switch.stations[place]? = some theirs ∧
      other ≠ host ∧ Portrays other member peer ∧
      peer.clock.toNat ≤ sentBy switch.queue other.wan ∧
      (sentBy switch.queue other.wan < UInt64.size → peer.clock ≤ theirs.overlay.globalTime)
  reports : ∀ report ∈ (switch.knownTo station).wanLog.reports, report.wan = host.wan
  wan : (switch.knownTo station).wan = .empty ∨ (switch.knownTo station).wan = host.wan
  /-- The host takes itself to be public if its addresses are the same, and never to
  be behind a symmetric NAT. -/
  connection : (switch.knownTo station).wanLog.connection =
    if (switch.knownTo station).wanLog.reports ≠ [] ∧ host.lan = host.wan then .reachable
    else .unknown
  addresses : ∀ address ∈ (switch.knownTo station).registry.addresses,
    network.Nearby host address

/-- Every host is at its place, and what it believes is true. -/
structure Truthful (network : Network) (switch : Switch) : Prop where
  believes : ∀ (place : Nat) (host : Host), network.hosts[place]? = some host →
    ∃ station, switch.stations[place]? = some station ∧ network.Believes switch host station

theorem Sound.truthful (sound : network.Sound switch) : network.Truthful switch := by
  refine ⟨fun place host found => ?_⟩
  obtain ⟨station, there, hosted⟩ := sound.hosted place host found
  have honest := hosted.honest 0
  refine ⟨station, there, ?_⟩
  refine
    { lan := honest.lan
      time := honest.time
      peers := ?_
      reports := fun report reported => (honest.reports report reported).2
      wan := honest.tellsWan
      connection := honest.reports.connection_eq
      addresses := honest.addresses }
  intro member peer stored
  obtain ⟨other, inside, differs, portrays⟩ := honest.portrays sound.written stored
  obtain ⟨otherPlace, otherFound⟩ := List.mem_iff_getElem?.1 inside
  obtain ⟨theirs, otherThere, otherHosted⟩ := sound.hosted otherPlace other otherFound
  have bounded : peer.clock.toNat ≤ sentBy switch.queue other.wan :=
    honest.clocks member peer stored other inside portrays.member.symm
  refine ⟨otherPlace, other, theirs, otherFound, otherThere, differs, portrays, bounded, ?_⟩
  intro few
  have time : theirs.overlay.globalTime = UInt64.ofNat (sentBy switch.queue other.wan) :=
    (otherHosted.honest 0).time
  rw [UInt64.le_iff_toNat_le, time, UInt64.toNat_ofNat', Nat.mod_eq_of_lt few]
  exact bounded

/-- In a network of honest hosts, whatever the schedule, all beliefs are true. -/
theorem truthful_run (network : Network) (moment : Moment) (events : List Event) :
    network.Truthful (network.run moment events) :=
  (network.sound_run moment events).truthful

end Network

end PeerDiscovery
