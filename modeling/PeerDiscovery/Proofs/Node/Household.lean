import Mathlib.Data.List.Nodup
import PeerDiscovery.Proofs.Node.Standing

/-!
# Who lives in which slot

The running overlays and the walkers refer to slots, so that it takes an argument that every
running overlay is there, and that every walker is for one that runs.  A household that `Hosts`
some guests has both: its overlays are these guests in order, each in a slot of its own and with
just the walks that it is to have.  Moving in, moving out and estimating the LAN address keep to
that.
-/

namespace PeerDiscovery

@[ext]
structure Makeup where
  reader : PrivateKey × OverlaySettings × Std.ExtTreeMap UInt8 Handler
  walks : List WalkSettings

def Makeup.service (makeup : Makeup) : ServiceId := makeup.reader.2.1.service

/-- An overlay that lives in a household, and what it takes the LAN address to be. -/
abbrev Guest := Makeup × Address

/-- The guest once it has estimated its LAN address from the bound address. -/
def Guest.estimated (bound : SocketAddress) (guest : Guest) : Guest :=
  (guest.1, bound.localAddress?.getD guest.2)

namespace Household

/-- The walks that are for the overlay in a slot, in order. -/
def walksOf (household : Household) (slot : Nat) : List WalkSettings :=
  (household.walkers.filter fun walker => walker.1 == slot).map (·.2)

def guest? (household : Household) (slot : Nat) : Option Guest :=
  household.slots[slot]?.map fun footing => (⟨footing.1, household.walksOf slot⟩, footing.2)

structure Hosts (household : Household) (guests : List Guest) : Prop where
  apart : household.overlays.Nodup
  guests : household.overlays.map household.guest? = guests.map some
  owned : ∀ walker ∈ household.walkers, walker.1 ∈ household.overlays

variable {household : Household} {guests : List Guest}

theorem hosts_nil_iff :
    household.Hosts [] ↔ household.overlays = [] ∧ household.walkers = [] := by
  constructor
  · intro hosts
    have nobody : household.overlays = [] := by simpa using hosts.guests
    refine ⟨nobody, List.eq_nil_iff_forall_not_mem.2 fun walker listed => ?_⟩
    have owned := hosts.owned walker listed
    rw [nobody] at owned
    exact List.not_mem_nil owned
  · rintro ⟨nobody, noWalker⟩
    exact ⟨by simp [nobody], by simp [nobody], by simp [noWalker]⟩

namespace Hosts

theorem exists_guest (hosts : household.Hosts guests) {slot : Nat}
    (runs : slot ∈ household.overlays) : ∃ guest ∈ guests, household.guest? slot = some guest := by
  have listed : household.guest? slot ∈ guests.map some := hosts.guests ▸ List.mem_map_of_mem runs
  obtain ⟨guest, among, same⟩ := List.mem_map.1 listed
  exact ⟨guest, among, same.symm⟩

theorem lt_length (hosts : household.Hosts guests) {slot : Nat}
    (runs : slot ∈ household.overlays) : slot < household.slots.length := by
  obtain ⟨guest, -, lives⟩ := hosts.exists_guest runs
  obtain ⟨footing, there, -⟩ := Option.map_eq_some_iff.1 lives
  exact (List.getElem?_eq_some_iff.1 there).1

theorem length_notMem (hosts : household.Hosts guests) :
    household.slots.length ∉ household.overlays :=
  fun runs => Nat.lt_irrefl _ (hosts.lt_length runs)

theorem walksOf_length (hosts : household.Hosts guests) :
    household.walksOf household.slots.length = [] := by
  unfold walksOf
  rw [List.map_eq_nil_iff, List.filter_eq_nil_iff]
  intro walker listed isNew
  have owned := hosts.owned walker listed
  rw [beq_iff_eq.1 isNew] at owned
  exact hosts.length_notMem owned

/-- Overlays of different services live in different slots. -/
theorem slot_unique (hosts : household.Hosts guests)
    (apart : (guests.map (·.1.service)).Nodup) {slot other : Nat} {guest neighbour : Guest}
    (runs : slot ∈ household.overlays) (runsThere : other ∈ household.overlays)
    (lives : household.guest? slot = some guest)
    (livesThere : household.guest? other = some neighbour)
    (same : guest.1.service = neighbour.1.service) : slot = other := by
  have services : household.overlays.map (fun slot => (household.guest? slot).map (·.1.service)) =
      (guests.map (·.1.service)).map some := by
    have mapped := congrArg (List.map (Option.map fun guest : Guest => guest.1.service)) hosts.guests
    simpa [Function.comp_def] using mapped
  have distinct := apart.map (Option.some_injective ServiceId)
  rw [← services] at distinct
  refine List.inj_on_of_nodup_map distinct runs runsThere ?_
  rw [lives, livesThere, Option.map_some, Option.map_some, same]

end Hosts

/-- The household once an overlay has moved into the next slot, with its walkers. -/
def installed (household : Household) (footing : Footing) (walks : List WalkSettings) :
    Household where
  slots := household.slots ++ [footing]
  overlays := household.overlays ++ [household.slots.length]
  walkers := household.walkers ++ walks.map (household.slots.length, ·)

theorem walksOf_installed (household : Household) (footing : Footing) (walks : List WalkSettings)
    (slot : Nat) : (household.installed footing walks).walksOf slot =
      household.walksOf slot ++ if household.slots.length = slot then walks else [] := by
  unfold walksOf installed
  rw [List.filter_append, List.map_append, List.filter_map]
  by_cases new : household.slots.length = slot
  · simp [new, Function.comp_def]
  · simp [new, Function.comp_def, beq_eq_false_iff_ne.2 new]

theorem Hosts.installed (hosts : household.Hosts guests) (footing : Footing)
    (walks : List WalkSettings) :
    (household.installed footing walks).Hosts (guests ++ [(⟨footing.1, walks⟩, footing.2)]) := by
  have fresh := hosts.length_notMem
  -- nothing changes for those who live there already
  have same : ∀ slot ∈ household.overlays,
      (household.installed footing walks).guest? slot = household.guest? slot := by
    intro slot runs
    have differs : household.slots.length ≠ slot := fun same => fresh (same ▸ runs)
    unfold guest?
    rw [walksOf_installed, if_neg differs, List.append_nil]
    exact congrArg _ (List.getElem?_append_left (hosts.lt_length runs))
  have own : (household.installed footing walks).guest? household.slots.length =
      some (⟨footing.1, walks⟩, footing.2) := by
    unfold guest?
    rw [walksOf_installed, if_pos rfl, hosts.walksOf_length, List.nil_append]
    exact congrArg _ List.getElem?_concat_length
  constructor
  · exact List.nodup_append_comm.1 (List.nodup_cons.2 ⟨fresh, hosts.apart⟩)
  · change (household.overlays ++ [household.slots.length]).map
      (household.installed footing walks).guest? = _
    rw [List.map_append, List.map_congr_left same, hosts.guests, List.map_singleton, own,
      List.map_append, List.map_singleton]
  · intro walker listed
    rcases List.mem_append.1 listed with earlier | new
    · exact List.mem_append_left _ (hosts.owned walker earlier)
    · obtain ⟨settings, -, rfl⟩ := List.mem_map.1 new
      exact List.mem_append_right _ (List.mem_singleton_self _)

/-- The household once the overlay in a slot was dismissed with its walkers. -/
def without (household : Household) (slot : Nat) : Household :=
  { household with
    overlays := household.overlays.erase slot
    walkers := household.walkers.filter fun walker => walker.1 != slot }

theorem guest?_without {slot other : Nat} (differs : other ≠ slot) :
    (household.without slot).guest? other = household.guest? other := by
  have kept : (household.without slot).walksOf other = household.walksOf other := by
    unfold walksOf without
    rw [List.filter_filter]
    refine congrArg _ (List.filter_congr fun walker _ => ?_)
    by_cases own : walker.1 = other
    · simp [own, differs]
    · simp [own]
  unfold guest?
  rw [kept]
  rfl

/-- Of overlays with different services the one that lives in the slot is gone, and only it. -/
theorem Hosts.without (hosts : household.Hosts guests) (apart : (guests.map (·.1.service)).Nodup)
    {slot : Nat} {guest : Guest} (runs : slot ∈ household.overlays)
    (lives : household.guest? slot = some guest) :
    (household.without slot).Hosts
      (guests.filter fun other => other.1.service != guest.1.service) := by
  have erased : (household.without slot).overlays =
      household.overlays.filter (· != slot) := hosts.apart.erase_eq_filter slot
  -- who has another service is who lives in another slot
  have unlike : ∀ other ∈ household.overlays, (other != slot) =
      (household.guest? other).any fun neighbour => neighbour.1.service != guest.1.service := by
    intro other runsThere
    obtain ⟨neighbour, -, livesThere⟩ := hosts.exists_guest runsThere
    rw [livesThere, Option.any_some, Bool.eq_iff_iff, bne_iff_ne, bne_iff_ne, not_iff_not]
    constructor
    · rintro rfl
      rw [livesThere] at lives
      rw [Option.some.inj lives]
    · exact hosts.slot_unique apart runsThere runs livesThere lives
  constructor
  · rw [erased]
    exact hosts.apart.filter _
  · rw [erased]
    have kept : ∀ other ∈ household.overlays.filter (· != slot),
        (household.without slot).guest? other = household.guest? other := fun other among =>
      guest?_without (bne_iff_ne.1 (List.mem_filter.1 among).2)
    rw [List.map_congr_left kept, List.filter_congr unlike]
    have filtered := congrArg (List.filter fun guest? => guest?.any fun neighbour : Guest =>
      neighbour.1.service != guest.1.service) hosts.guests
    simpa [List.filter_map, Function.comp_def] using filtered
  · intro walker listed
    obtain ⟨earlier, differs⟩ := List.mem_filter.1 listed
    rw [erased]
    exact List.mem_filter.2 ⟨hosts.owned walker earlier, differs⟩

theorem getElem?_moved (become : Footing → Footing) (apart : household.overlays.Nodup) {slot : Nat}
    (runs : slot ∈ household.overlays) :
    (household.moved become).slots[slot]? = household.slots[slot]?.map become := by
  have moves : ∀ (slots : List Nat) (footings : List Footing), slots.Nodup →
      (slots.foldl (fun footings slot => footings.modify slot become) footings)[slot]? =
        if slot ∈ slots then footings[slot]?.map become else footings[slot]? := by
    intro slots
    induction slots with
    | nil => intro footings _; rfl
    | cons first others ih =>
        intro footings distinct
        obtain ⟨notAgain, rest⟩ := List.nodup_cons.1 distinct
        rw [List.foldl_cons, ih _ rest, List.getElem?_modify]
        by_cases here : first = slot
        · subst here
          simp [notAgain]
        · simp [here, Ne.symm here]
  exact (moves _ _ apart).trans (if_pos runs)

/-- Estimating the LAN address changes nothing else about anybody. -/
theorem Hosts.estimated (hosts : household.Hosts guests) (bound : SocketAddress) :
    (household.moved (Footing.estimated bound)).Hosts (guests.map (Guest.estimated bound)) := by
  refine ⟨hosts.apart, ?_, hosts.owned⟩
  have moved : ∀ slot ∈ household.overlays,
      (household.moved (Footing.estimated bound)).guest? slot =
        (household.guest? slot).map (Guest.estimated bound) := by
    intro slot runs
    unfold guest?
    rw [getElem?_moved _ hosts.apart runs, Option.map_map, Option.map_map]
    rfl
  change household.overlays.map (household.moved (Footing.estimated bound)).guest? = _
  have mapped := congrArg (List.map (Option.map (Guest.estimated bound))) hosts.guests
  rw [List.map_congr_left moved]
  simpa [Function.comp_def] using mapped

end Household

end PeerDiscovery
