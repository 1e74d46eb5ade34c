import Mathlib.Data.List.Nodup
import Mathlib.Data.List.Pairwise
import PeerDiscovery.Node.Basic
import PeerDiscovery.Proofs.Overlay.Receiving

/-!
# Handing a packet to the overlays

A received packet is handed to every overlay that runs, one after the other, and each one of
them looks whether the packet is its own.  A packet starts with the header of one service at
most, so while the overlays have different services one of them handles it, or none; and the
order in which they are asked does not matter.
-/

namespace PeerDiscovery

/-- A packet belongs to the overlays of one service. -/
theorem Packet.service_unique {packet : Packet} {service other : ServiceId}
    (first : packet.hasHeader service = true) (second : packet.hasHeader other = true) :
    service = other := by
  simp only [hasHeader, Bool.and_eq_true, beq_iff_eq] at first second
  exact ServiceId.header_injective (first.2.symm.trans second.2)

namespace Node

variable {node : Node} {moment : Moment} {work : Activity → Activity} {slot : Nat}

/-- Work that does nothing to the overlay in a slot, whatever the node knows. -/
def Idle (node : Node) (moment : Moment) (work : Activity → Activity) (slot : Nat) : Prop :=
  ∀ overlay : Overlay, node.slots[slot]? = some overlay → ∀ known : Neighbourhood,
    work (.start overlay known moment) = .start overlay known moment

theorem employ_of_idle (idle : node.Idle moment work slot) :
    node.employ moment work slot = node := by
  unfold employ
  split
  · rename_i overlay housed
    obtain ⟨inside, here⟩ := List.getElem?_eq_some_iff.1 housed
    have same : node.slots.set slot overlay = node.slots := by
      rw [← here, List.set_getElem_self]
    rw [idle overlay housed]
    simp [absorb, Activity.start, same]
  · rfl

theorem perform_of_idle {slots : List Nat} (idle : ∀ slot ∈ slots, node.Idle moment work slot) :
    node.perform moment work slots = node := by
  induction slots with
  | nil => rfl
  | cons slot others ih =>
      obtain ⟨idleHere, idleThere⟩ := List.forall_mem_cons.1 idle
      change (node.employ moment work slot).perform moment work others = node
      rw [employ_of_idle idleHere]
      exact ih idleThere

/-- Whoever is at work does not touch the other slots. -/
theorem idle_employ_iff {other : Nat} (differs : slot ≠ other) :
    (node.employ moment work slot).Idle moment work other ↔ node.Idle moment work other := by
  have same : (node.employ moment work slot).slots[other]? = node.slots[other]? := by
    unfold employ
    split
    · exact List.getElem?_set_ne differs
    · rfl
  unfold Idle
  rw [same]

/-- Work that concerns one overlay alone comes to the same in whatever order the overlays are
at it. -/
theorem perform_of_idle_ne {slots : List Nat} (apart : slots.Nodup) (listed : slot ∈ slots)
    (idle : ∀ other ∈ slots, other ≠ slot → node.Idle moment work other) :
    node.perform moment work slots = node.employ moment work slot := by
  obtain ⟨before, behind, rfl⟩ := List.append_of_mem listed
  obtain ⟨notAgain, -⟩ := List.nodup_cons.1 (List.perm_middle.nodup_iff.1 apart)
  have differs : ∀ other ∈ before ++ behind, other ≠ slot :=
    fun other elsewhere same => notAgain (same ▸ elsewhere)
  have idleElsewhere : ∀ other ∈ before ++ behind, node.Idle moment work other := by
    intro other elsewhere
    refine idle other ?_ (differs other elsewhere)
    exact List.perm_middle.mem_iff.2 (List.mem_cons_of_mem slot elsewhere)
  obtain ⟨idleBefore, idleBehind⟩ := List.forall_mem_append.1 idleElsewhere
  have first : before.foldl (fun node slot => node.employ moment work slot) node = node :=
    perform_of_idle idleBefore
  unfold perform
  rw [List.foldl_append, first, List.foldl_cons]
  refine perform_of_idle fun other later => (idle_employ_iff ?_).2 (idleBehind other later)
  exact (differs other (List.mem_append_right _ later)).symm

/-- Overlays of different services run in different slots. -/
theorem service?_ne (apart : node.services.Nodup) {other : Nat} (runs : slot ∈ node.overlays)
    (runsThere : other ∈ node.overlays) (differs : other ≠ slot) {service : ServiceId}
    (serves : node.service? slot = some service) : node.service? other ≠ some service := by
  unfold services at apart
  rw [List.Nodup, List.pairwise_filterMap] at apart
  have : Std.Symm fun slot other : Nat => ∀ service, node.service? slot = some service →
      ∀ service', node.service? other = some service' → service ≠ service' :=
    ⟨fun _ _ unlike _ first _ second => (unlike _ second _ first).symm⟩
  exact fun same => apart.forall runs runsThere differs.symm _ serves _ same rfl

variable {packet : Packet}

theorem idle_receive (foreign : ∀ service, node.service? slot = some service →
    packet.hasHeader service = false) (moment : Moment) (pick : Nat) :
    node.Idle moment (fun activity => activity.receive packet pick) slot := by
  intro overlay housed known
  have header : packet.hasHeader (Activity.start overlay known moment).service = false :=
    foreign overlay.service (by simp [service?, housed])
  exact Activity.receive_of_foreign header pick

/-- Of running overlays with different services only the one whose header the packet has
receives it, in whatever order they are asked. -/
theorem hand_eq_hand_singleton (apart : node.services.Nodup) (apartSlots : node.overlays.Nodup)
    {order : List Nat} (permuted : order.Perm node.overlays) (listed : slot ∈ order)
    {service : ServiceId} (serves : node.service? slot = some service)
    (headed : packet.hasHeader service = true) (moment : Moment) (pick : Nat) :
    node.hand moment packet pick order = node.hand moment packet pick [slot] := by
  refine perform_of_idle_ne (permuted.nodup_iff.2 apartSlots) listed fun other among differs => ?_
  refine idle_receive (fun service' servesThere => ?_) moment pick
  rw [← Bool.not_eq_true]
  intro also
  rw [← Packet.service_unique headed also] at servesThere
  exact service?_ne apart (permuted.mem_iff.1 listed) (permuted.mem_iff.1 among) differs serves
    servesThere

theorem known_hand_singleton {overlay : Overlay} (housed : node.slots[slot]? = some overlay)
    (moment : Moment) (packet : Packet) (pick : Nat) :
    (node.hand moment packet pick [slot]).known =
      ((Activity.start overlay node.known moment).receive packet pick).known := by
  unfold hand perform
  rw [List.foldl_cons, List.foldl_nil, employ, housed]
  rfl

end Node

end PeerDiscovery
