import Mathlib.Data.Nat.Find
import PeerDiscovery.Proofs.Transport.Routing

/-!
# Ports that are handed out

Whoever binds to port zero gets a port that a search finds.  The search goes by a counter that
wraps around, and it goes on until it comes to a port that is free.  Every port but zero belongs
to a value of the counter, and the counter goes through all its values in one round, so the
search ends within a round unless all ports are taken.  It never gives a port that is taken;
therefore no address is bound twice as long as nothing is closed.
-/

namespace PeerDiscovery

namespace MemoryNetwork

variable {network : MemoryNetwork} {address : SocketAddress} {calls : List Call}

/-- Every port but zero belongs to the counter that is as far from the first port. -/
theorem portOf_sub {port : UInt16} (usable : port ≠ 0) : portOf (port - 49152) = port := by
  have restored : 49152 + (port - 49152) = port := by
    rw [UInt16.add_comm, UInt16.sub_add_cancel]
  have positive : 1 ≤ port := by
    have nonzero : port.toNat ≠ 0 := fun zero => usable (UInt16.toNat_inj.1 zero)
    exact UInt16.le_iff_toNat_le.2 (Nat.one_le_iff_ne_zero.2 nonzero)
  rw [portOf, restored]
  exact if_pos positive

theorem portOf_ne_zero (counter : UInt16) : portOf counter ≠ 0 := by
  change (if 1 ≤ 49152 + counter then 49152 + counter else 1) ≠ 0
  split
  · rename_i positive
    rintro zero
    rw [zero] at positive
    exact absurd positive (by decide)
  · decide

/-- From any value the counter comes to any other within a round. -/
theorem exists_add_eq (first last : UInt16) : ∃ turn < 65536, first + UInt16.ofNat turn = last := by
  refine ⟨(last - first).toNat, (last - first).toNat_lt, ?_⟩
  rw [UInt16.ofNat_toNat, UInt16.add_comm, UInt16.sub_add_cancel]

/-- The address that a search from some counter tries in a turn. -/
def candidate (address : SocketAddress) (counter : UInt16) (turn : Nat) : SocketAddress :=
  withPort address (portOf (counter + UInt16.ofNat turn))

theorem candidate_zero (address : SocketAddress) (counter : UInt16) :
    candidate address counter 0 = withPort address (portOf counter) := by
  rw [candidate, show UInt16.ofNat 0 = 0 from rfl, UInt16.add_zero]

theorem candidate_succ (address : SocketAddress) (counter : UInt16) (turn : Nat) :
    candidate address counter (turn + 1) = candidate address (counter + 1) turn := by
  rw [candidate, candidate, UInt16.add_assoc, Nat.add_comm, UInt16.ofNat_add]
  rfl

/-- A search ends in a turn: what it tried before is taken, and what it tries then is free. -/
structure EndsIn (network : MemoryNetwork) (address : SocketAddress) (counter : UInt16)
    (turn : Nat) : Prop where
  taken : ∀ earlier < turn, network.routes[candidate address counter earlier]?.isSome
  free : network.routes[candidate address counter turn]? = none

theorem EndsIn.unique {counter : UInt16} {turn other : Nat}
    (ends : network.EndsIn address counter turn) (alike : network.EndsIn address counter other) :
    turn = other := by
  rcases Nat.lt_trichotomy turn other with before | same | behind
  · simpa [ends.free] using alike.taken turn before
  · exact same
  · simpa [alike.free] using ends.taken other behind

theorem endsIn_zero_iff {counter : UInt16} : network.EndsIn address counter 0 ↔
    network.routes[candidate address counter 0]? = none :=
  ⟨EndsIn.free, fun free => ⟨nofun, free⟩⟩

/-- The search ends later if its first try is taken and it ends from the next counter. -/
theorem endsIn_succ_iff {counter : UInt16} {turn : Nat} :
    network.EndsIn address counter (turn + 1) ↔
      network.routes[candidate address counter 0]?.isSome ∧
        network.EndsIn address (counter + 1) turn := by
  constructor
  · intro ends
    refine ⟨ends.taken 0 (Nat.succ_pos turn), fun earlier before => ?_, ?_⟩
    · rw [← candidate_succ]
      exact ends.taken (earlier + 1) (Nat.succ_lt_succ before)
    · rw [← candidate_succ]
      exact ends.free
  · rintro ⟨first, ends⟩
    refine ⟨fun earlier before => ?_, by rw [candidate_succ]; exact ends.free⟩
    cases earlier with
    | zero => exact first
    | succ earlier =>
      rw [candidate_succ]
      exact ends.taken earlier (Nat.lt_of_succ_lt_succ before)

/-- What the search gives that ends in a turn: the address that it tries then, and the counter
behind it. -/
def found (address : SocketAddress) (counter : UInt16) (turn : Nat) : SocketAddress × UInt16 :=
  (candidate address counter turn, counter + UInt16.ofNat (turn + 1))

theorem found_succ (address : SocketAddress) (counter : UInt16) (turn : Nat) :
    found address counter (turn + 1) = found address (counter + 1) turn := by
  have moved : counter + UInt16.ofNat (turn + 1 + 1) = counter + 1 + UInt16.ofNat (turn + 1) := by
    rw [UInt16.add_assoc, Nat.add_comm (turn + 1), UInt16.ofNat_add 1]
    rfl
  rw [found, found, candidate_succ, moved]

/-- With so many steps the search gives what it ends with in an earlier turn. -/
theorem freePort?_eq_some_iff {counter : UInt16} {result : SocketAddress × UInt16} {steps : Nat} :
    network.freePort? address counter steps = some result ↔
      ∃ turn < steps, network.EndsIn address counter turn ∧ found address counter turn = result := by
  induction steps generalizing counter with
  | zero => simp [freePort?]
  | succ steps ih =>
    rw [freePort?, ← candidate_zero, Std.ExtTreeMap.contains_eq_isSome_getElem?]
    cases first : network.routes[candidate address counter 0]? with
    | none =>
      have atOnce := endsIn_zero_iff.2 first
      constructor
      · rintro ⟨⟩
        exact ⟨0, Nat.succ_pos steps, atOnce, rfl⟩
      · rintro ⟨turn, -, ends, rfl⟩
        rw [ends.unique atOnce]
        rfl
    | some index =>
      rw [Option.isSome_some, if_pos rfl, ih]
      constructor
      · rintro ⟨turn, inTime, ends, rfl⟩
        exact ⟨turn + 1, Nat.succ_lt_succ inTime, endsIn_succ_iff.2 ⟨by rw [first]; rfl, ends⟩,
          found_succ address counter turn⟩
      · rintro ⟨_ | turn, inTime, ends, rfl⟩
        · rw [endsIn_zero_iff.1 ends] at first
          cases first
        · exact ⟨turn, Nat.lt_of_succ_lt_succ inTime, (endsIn_succ_iff.1 ends).2,
            (found_succ address counter turn).symm⟩

/-- The counter is back after a round, so that the search would try nothing new. -/
theorem EndsIn.lt {counter : UInt16} {turn : Nat} (ends : network.EndsIn address counter turn) :
    turn < 65536 := by
  obtain ⟨early, inRound, same⟩ := exists_add_eq counter (counter + UInt16.ofNat turn)
  by_contra late
  have tried := ends.taken early (Nat.lt_of_lt_of_le inRound (Nat.not_lt.1 late))
  rw [candidate, same, ← candidate, ends.free] at tried
  cases tried

/-- Some port other than zero is free at the IP of an address. -/
def HasFreePort (network : MemoryNetwork) (address : SocketAddress) : Prop :=
  ∃ port, port ≠ 0 ∧ network.routes[withPort address port]? = none

/-- The search ends if some port is free, and else never. -/
theorem exists_endsIn_iff {counter : UInt16} :
    (∃ turn, network.EndsIn address counter turn) ↔ network.HasFreePort address := by
  constructor
  · rintro ⟨turn, ends⟩
    exact ⟨_, portOf_ne_zero _, ends.free⟩
  · rintro ⟨port, usable, free⟩
    obtain ⟨turn, -, reached⟩ := exists_add_eq counter (port - 49152)
    have listed : ∃ turn, network.routes[candidate address counter turn]? = none :=
      ⟨turn, by rw [candidate, reached, portOf_sub usable]; exact free⟩
    classical
    refine ⟨Nat.find listed, fun earlier before => ?_, Nat.find_spec listed⟩
    exact Option.isSome_iff_ne_none.2 (Nat.find_min listed before)

/-- Beyond a round it makes no difference how many steps the search may take. -/
theorem freePort?_of_endsIn {counter : UInt16} {turn steps : Nat}
    (ends : network.EndsIn address counter turn) (enough : 65536 ≤ steps) :
    network.freePort? address counter steps = some (found address counter turn) :=
  freePort?_eq_some_iff.2 ⟨turn, Nat.lt_of_lt_of_le ends.lt enough, ends, rfl⟩

/-- Whoever asks for port zero is bound where the search ends. -/
theorem bind_of_endsIn {turn : Nat} (portless : portIn address = 0)
    (ends : network.EndsIn address network.nextPort turn) :
    network.bind address = (.ok (candidate address network.nextPort turn),
      network.joined (candidate address network.nextPort turn)
        (network.nextPort + UInt16.ofNat (turn + 1))) := by
  have isFree : network.routes.contains (candidate address network.nextPort turn) = false := by
    rw [Std.ExtTreeMap.contains_eq_isSome_getElem?, ends.free]
    rfl
  rw [bind, choose?, if_pos portless, freePort?_of_endsIn ends (Nat.le_refl _)]
  simp only [found, isFree, Bool.false_eq_true, if_false]
  rfl

def bound? (network : MemoryNetwork) : Call → Option SocketAddress
  | .bind address => (network.bind address).1.toOption
  | _ => none

/-- The addresses that calls bind one after the other. -/
def boundBy (network : MemoryNetwork) : List Call → List SocketAddress
  | [] => []
  | call :: later => (network.bound? call).toList ++ (network.after call).boundBy later

/-- An address that is bound was not in the table. -/
theorem routes_of_bound? {call : Call} (binds : network.bound? call = some address) :
    network.routes[address]? = none := by
  cases call with
  | bind asked =>
    rcases network.bind_cases asked with ⟨taken, nextPort, failed⟩ | ⟨free, nextPort, isFree, done⟩
    · rw [bound?, failed] at binds
      cases binds
    · rw [bound?, done] at binds
      cases binds
      exact isFree
  | _ => cases binds

/-- Unless something is closed, the table keeps its addresses and gains the one that is bound. -/
theorem routes_after_eq_none_iff {call : Call} (stays : ∀ index, call ≠ .close index) :
    (network.after call).routes[address]? = none ↔
      network.routes[address]? = none ∧ network.bound? call ≠ some address := by
  cases call with
  | bind asked =>
    rcases network.bind_cases asked with ⟨taken, nextPort, failed⟩ | ⟨free, nextPort, -, done⟩
    · simp [after, bound?, failed, Except.toOption]
    · rw [after, bound?, done, routes_joined]
      by_cases here : free = address <;> simp [here, Except.toOption]
  | send index destination data =>
    cases network.reroutes_after (.send index destination data) with
    | kept _ routes => simp [routes, bound?]
  | receive index capacity =>
    cases network.reroutes_after (.receive index capacity) with
    | kept _ routes => simp [routes, bound?]
  | close index => exact absurd rfl (stays index)

/-- What is bound is not in the table, and no address is bound twice. -/
theorem fresh_boundBy (stays : ∀ index, .close index ∉ calls) :
    (∀ address ∈ network.boundBy calls, network.routes[address]? = none) ∧
      (network.boundBy calls).Nodup := by
  induction calls generalizing network with
  | nil => exact ⟨nofun, List.nodup_nil⟩
  | cons call later ih =>
    have first : ∀ index, call ≠ .close index := by
      rintro index rfl
      exact stays index List.mem_cons_self
    have staysLater : ∀ index, .close index ∉ later :=
      fun index listed => stays index (List.mem_cons_of_mem call listed)
    have laterFresh : (∀ address ∈ (network.after call).boundBy later,
        (network.after call).routes[address]? = none) ∧
          ((network.after call).boundBy later).Nodup := ih staysLater
    obtain ⟨free, distinct⟩ := laterFresh
    have freeBefore : ∀ address ∈ (network.after call).boundBy later,
        network.routes[address]? = none ∧ network.bound? call ≠ some address :=
      fun address listed => (routes_after_eq_none_iff first).1 (free address listed)
    rw [boundBy]
    cases binds : network.bound? call with
    | none => exact ⟨fun address listed => (freeBefore address listed).1, distinct⟩
    | some address =>
      refine ⟨fun other listed => ?_, List.nodup_cons.2 ⟨fun again => ?_, distinct⟩⟩
      · rcases List.mem_cons.1 listed with rfl | afterwards
        · exact routes_of_bound? binds
        · exact (freeBefore other afterwards).1
      · exact (freeBefore address again).2 binds

/-- How a network hands out ports. -/
structure HandsOutPorts (network : MemoryNetwork) : Prop where
  /-- The search ends within a round of the counter with a port that is not in the table, and
  would not go on if it could. -/
  ends : ∀ address, network.HasFreePort address → ∃ port next, port ≠ 0 ∧
    network.routes[withPort address port]? = none ∧
    ∀ steps, 65536 ≤ steps →
      network.freePort? address network.nextPort steps = some (withPort address port, next)
  starves : ∀ address, ¬network.HasFreePort address →
    ∀ steps, network.freePort? address network.nextPort steps = none
  binds : ∀ address, portIn address = 0 → network.HasFreePort address → ∃ port, port ≠ 0 ∧
    network.routes[withPort address port]? = none ∧
    (network.bind address).1 = .ok (withPort address port)
  fresh : ∀ calls, (∀ index, .close index ∉ calls) →
    (∀ address ∈ network.boundBy calls, network.routes[address]? = none) ∧
      (network.boundBy calls).Nodup

/-- Every network hands out ports in this way, whatever its table and its counter. -/
theorem handsOutPorts (network : MemoryNetwork) : network.HandsOutPorts where
  ends address hasFree := by
    obtain ⟨turn, ends⟩ := exists_endsIn_iff.2 hasFree
    exact ⟨_, _, portOf_ne_zero _, ends.free, fun steps enough => freePort?_of_endsIn ends enough⟩
  starves address full steps := by
    rw [Option.eq_none_iff_forall_ne_some]
    intro result given
    obtain ⟨turn, -, ends, -⟩ := freePort?_eq_some_iff.1 given
    exact full (exists_endsIn_iff.1 ⟨turn, ends⟩)
  binds address portless hasFree := by
    obtain ⟨turn, ends⟩ := exists_endsIn_iff.2 hasFree
    exact ⟨_, portOf_ne_zero _, ends.free, by rw [bind_of_endsIn portless ends]; rfl⟩
  fresh _ stays := fresh_boundBy stays

/-- Behind the last port comes the first one, and it comes twice. -/
example :
    let host : Ipv4 := ⟨10, 0, 0, 1⟩
    let routes : Std.ExtTreeMap SocketAddress Nat :=
      (({} : Std.ExtTreeMap SocketAddress Nat).insert (.v4 ⟨host, 65535⟩) 0).insert
        (.v4 ⟨host, 1⟩) 1
    freePort? ⟨#[], routes, 16383⟩ (.v4 ⟨host, 0⟩) 16383 65536 =
      some (.v4 ⟨host, 2⟩, 16387) := by
  decide +kernel

end MemoryNetwork

end PeerDiscovery
