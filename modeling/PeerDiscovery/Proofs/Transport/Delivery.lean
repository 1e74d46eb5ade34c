import Mathlib.Algebra.BigOperators.Group.Finset.Piecewise
import Mathlib.Algebra.GroupWithZero.Nat
import Mathlib.Algebra.Order.BigOperators.Group.Finset
import PeerDiscovery.Proofs.Transport.Routing

/-!
# What arrives, and what is counted

The datagrams that a transport has received, followed by those that still wait for it, are the
ones sent to where the routing table led to it.  The law is stated for one call, as an equation
between what was there and came in and what was taken and is left, and adds up over a run.
Both counters follow from the sizes that the calls return.
-/

namespace PeerDiscovery

namespace Traffic

def total (sizes : List Nat) : Traffic := ⟨.ofNat sizes.length, .ofNat sizes.sum, 0⟩

theorem count_total (sizes : List Nat) (size : Nat) :
    (total sizes).count size = total (sizes ++ [size]) := by
  simp [total, count, UInt64.ofNat_add]

theorem foldl_count_none (sizes : List Nat) : sizes.foldl count none = total sizes := by
  induction sizes using List.reverseRecOn with
  | nil => rfl
  | append_singleton sizes size ih => rw [List.foldl_concat, ih, count_total]

theorem packets_total (sizes : List Nat) :
    (total sizes).packets.toNat = sizes.length % 2 ^ 64 :=
  UInt64.toNat_ofNat'

theorem bytes_total (sizes : List Nat) : (total sizes).bytes.toNat = sizes.sum % 2 ^ 64 :=
  UInt64.toNat_ofNat'

end Traffic

namespace MemoryNetwork

variable {network next : MemoryNetwork} {calls : List Call} {call : Call} {index : Nat}

/-- What is noted of the calls of a run, of each one in the network that it meets. -/
def note {Entry : Type} (noted : MemoryNetwork → Call → List Entry) :
    MemoryNetwork → List Call → List Entry
  | _, [] => []
  | network, call :: later => noted network call ++ note noted (network.after call) later

/-- The sizes that the successful sends of a transport return. -/
def outgoing (index : Nat) (network : MemoryNetwork) : Call → List Nat
  | .send sender destination data =>
    match network.send sender destination data with
    | .ok (size, _) => if sender = index then [size] else []
    | .error _ => []
  | _ => []

/-- The successful sends to an address from which the table leads to a transport, each under the
address that its sender was bound to. -/
def directed (index : Nat) (network : MemoryNetwork) : Call → List Arrival
  | .send sender destination data =>
    match network.send sender destination data, network.address? sender with
    | .ok _, some source =>
      if network.routes[destination]? = some index then [⟨data, source⟩] else []
    | _, _ => []
  | _ => []

structure Copy where
  capacity : Nat
  data : Bytes
  source : SocketAddress
deriving DecidableEq

/-- The datagrams that are received from a transport. -/
def copies (index : Nat) (network : MemoryNetwork) : Call → List Copy
  | .receive receiver capacity =>
    match (network.receive receiver capacity).1 with
    | .datagram data source => if receiver = index then [⟨capacity, data, source⟩] else []
    | _ => []
  | _ => []

/-- A copy has as much of a datagram as there is space for. -/
structure Copy.Of (copy : Copy) (arrival : Arrival) : Prop where
  data : copy.data = arrival.data.take copy.capacity
  size : copy.data.length = min arrival.data.length copy.capacity
  source : copy.source = arrival.source

section

variable {source destination : SocketAddress} {data : Bytes}

theorem outgoing_of_holds {sender : Nat} (holds : network.Holds sender source) :
    outgoing index network (.send sender destination data) =
      if sender = index then [data.length] else [] := by
  simp only [outgoing, send_of_holds holds]

theorem directed_of_holds {sender : Nat} (holds : network.Holds sender source) :
    directed index network (.send sender destination data) =
      if network.routes[destination]? = some index then [⟨data, source⟩] else [] := by
  simp only [directed, send_of_holds holds, holds.address?_eq]

theorem outgoing_of_failed {sender : Nat} {cause : TransportError}
    (failed : network.send sender destination data = .error cause) :
    outgoing index network (.send sender destination data) = [] := by
  simp only [outgoing, failed]

theorem directed_of_failed {sender : Nat} {cause : TransportError}
    (failed : network.send sender destination data = .error cause) :
    directed index network (.send sender destination data) = [] := by
  simp only [directed, failed]

theorem copies_of_waiting {receiver : Nat} {address : SocketAddress}
    (holds : network.Holds receiver address) {arrival : Arrival} {later : List Arrival}
    (waiting : network.inbox receiver = arrival :: later) (capacity : Nat) :
    copies index network (.receive receiver capacity) =
      if receiver = index then [⟨capacity, arrival.data.take capacity, arrival.source⟩]
      else [] := by
  simp only [copies, receive_of_waiting holds waiting]

theorem copies_of_failed {receiver capacity : Nat} {receipt : Receipt}
    (failed : network.receive receiver capacity = (receipt, network))
    (nothing : ∀ data source, receipt ≠ .datagram data source) :
    copies index network (.receive receiver capacity) = [] := by
  cases receipt with
  | datagram data source => exact absurd rfl (nothing data source)
  | pending => simp only [copies, failed]
  | closed => simp only [copies, failed]

end

/-- The table leads to open transports only, to each at its address. -/
def Routed (network : MemoryNetwork) : Prop :=
  ∀ address index, network.routes[address]? = some index → network.Holds index address

theorem Routed.of_reroutes (routed : network.Routed) (reroutes : network.Reroutes call next) :
    next.Routed := by
  intro address index led
  cases reroutes with
  | kept stays sameRoutes sameSockets =>
      rw [sameRoutes] at led
      rw [Holds, sameSockets]
      exact routed address index led
  | bound asked nextPort isFree =>
      rw [routes_joined] at led
      rw [holds_joined_iff]
      split at led
      · rename_i here
        cases led
        exact .inl ⟨rfl, here⟩
      · exact .inr (routed address index led)
  | closed other =>
      rw [routes_close] at led
      rw [holds_close_iff]
      split at led
      · cases led
      · rename_i elsewhere
        have holds := routed address index led
        refine ⟨holds, ?_⟩
        rintro rfl
        exact elsewhere holds.address?_eq

theorem Routed.after (routed : network.Routed) (call : Call) : (network.after call).Routed :=
  routed.of_reroutes (network.reroutes_after call)

theorem Routed.run (routed : network.Routed) (calls : List Call) : (network.run calls).Routed := by
  induction calls generalizing network with
  | nil => exact routed
  | cons call later ih => exact ih (routed.after call)

theorem routed_empty : empty.Routed := by
  intro address index led
  simp [empty] at led

theorem Routed.inbox_posted (routed : network.Routed) (sender : Nat)
    (source destination : SocketAddress) (data : Bytes) (index : Nat) :
    (network.posted sender source destination data).inbox index = network.inbox index ++
      if network.routes[destination]? = some index then [⟨data, source⟩] else [] := by
  rw [MemoryNetwork.inbox_posted]
  cases led : network.routes[destination]? with
  | none =>
      rw [deliver_of_lost led, if_neg nofun, List.append_nil]
  | some reached =>
      rw [inbox_deliver (routed _ _ led) led]
      by_cases here : reached = index
      · rw [if_pos here, if_pos (congrArg some here)]
      · rw [if_neg here, if_neg (here ∘ Option.some.inj), List.append_nil]

/-- What waits for a transport and what comes in is what is taken and what is left. -/
theorem Effect.inbox_eq (effect : network.Effect call next) (routed : network.Routed)
    (index : Nat) :
    ∃ taken,
      network.inbox index ++ directed index network call = taken ++ next.inbox index ∧
      List.Forall₂ Copy.Of (copies index network call) taken := by
  cases effect with
  | unbound => exact ⟨[], List.append_nil _, .nil⟩
  | bound asked nextPort isFree =>
      rw [inbox_joined]
      exact ⟨[], List.append_nil _, .nil⟩
  | unsent sender destination data failed =>
      rw [directed_of_failed failed]
      exact ⟨[], List.append_nil _, .nil⟩
  | sent holds destination data =>
      rw [directed_of_holds holds, routed.inbox_posted]
      exact ⟨[], rfl, .nil⟩
  | unreceived receiver capacity failed nothing =>
      rw [copies_of_failed failed nothing]
      exact ⟨[], List.append_nil _, .nil⟩
  | @received receiver address holds arrival later waiting capacity =>
      rw [copies_of_waiting holds waiting, inbox_relieved]
      by_cases here : receiver = index
      · rw [if_pos here, if_pos here, ← here, waiting]
        refine ⟨[arrival], List.append_nil _, .cons ⟨rfl, ?_, rfl⟩ .nil⟩
        rw [List.length_take, Nat.min_comm]
      · rw [if_neg here, if_neg here]
        exact ⟨[], List.append_nil _, .nil⟩
  | closed other =>
      rw [inbox_close]
      exact ⟨[], List.append_nil _, .nil⟩

theorem Effect.sent_eq (effect : network.Effect call next) (index : Nat) :
    next.sent index = (outgoing index network call).foldl Traffic.count (network.sent index) := by
  cases effect with
  | unbound => rfl
  | bound asked nextPort isFree => rw [sent_joined]; rfl
  | unsent sender destination data failed => rw [outgoing_of_failed failed]; rfl
  | sent holds destination data =>
      rw [sent_posted _ _ _ holds, outgoing_of_holds holds]
      split <;> rfl
  | unreceived receiver capacity failed nothing => rfl
  | received holds waiting capacity => rw [sent_relieved]; rfl
  | closed other => rw [sent_close]; rfl

theorem Effect.received_eq (effect : network.Effect call next) (index : Nat) :
    next.received index =
      ((copies index network call).map (·.data.length)).foldl Traffic.count
        (network.received index) := by
  cases effect with
  | unbound => rfl
  | bound asked nextPort isFree => rw [received_joined]; rfl
  | unsent sender destination data failed => rfl
  | sent holds destination data => rw [received_posted]; rfl
  | unreceived receiver capacity failed nothing =>
      rw [copies_of_failed failed nothing]
      rfl
  | received holds waiting capacity =>
      rw [received_relieved _ holds, copies_of_waiting holds waiting]
      split <;> rfl
  | closed other => rw [received_close]; rfl

theorem Routed.inbox_run (routed : network.Routed) (calls : List Call) (index : Nat) :
    ∃ taken,
      network.inbox index ++ note (directed index) network calls =
        taken ++ (network.run calls).inbox index ∧
      List.Forall₂ Copy.Of (note (copies index) network calls) taken := by
  induction calls generalizing network with
  | nil => exact ⟨[], List.append_nil _, .nil⟩
  | cons call later ih =>
      obtain ⟨now, first, copied⟩ := (network.effect_after call).inbox_eq routed index
      obtain ⟨afterwards, rest, copiedLater⟩ := ih (routed.after call)
      refine ⟨now ++ afterwards, ?_, List.rel_append copied copiedLater⟩
      rw [note, ← List.append_assoc, first, List.append_assoc, rest, List.append_assoc]
      rfl

theorem sent_run (network : MemoryNetwork) (calls : List Call) (index : Nat) :
    (network.run calls).sent index =
      (note (outgoing index) network calls).foldl Traffic.count (network.sent index) := by
  induction calls generalizing network with
  | nil => rfl
  | cons call later ih =>
      rw [note, List.foldl_append, ← (network.effect_after call).sent_eq]
      exact ih (network.after call)

theorem received_run (network : MemoryNetwork) (calls : List Call) (index : Nat) :
    (network.run calls).received index =
      ((note (copies index) network calls).map (·.data.length)).foldl Traffic.count
        (network.received index) := by
  induction calls generalizing network with
  | nil => rfl
  | cons call later ih =>
      rw [note, List.map_append, List.foldl_append, ← (network.effect_after call).received_eq]
      exact ih (network.after call)

/-- Sizes are added up by their weight: one for each packet, or one for each byte. -/
def load (weight : Nat → Nat) (sizes : List Nat) : Nat := (sizes.map weight).sum

theorem load_one (sizes : List Nat) : load (fun _ => 1) sizes = sizes.length := by
  simp [load]

theorem load_id (sizes : List Nat) : load id sizes = sizes.sum := by
  simp [load]

theorem load_append (weight : Nat → Nat) (first second : List Nat) :
    load weight (first ++ second) = load weight first + load weight second := by
  simp [load]

section

variable (weight : Nat → Nat)

theorem sum_load_ite (size count chosen : Nat) :
    ∑ index ∈ Finset.range count, load weight (if chosen = index then [size] else []) =
      if chosen < count then weight size else 0 := by
  have each : ∀ index, load weight (if chosen = index then [size] else []) =
      if chosen = index then weight size else 0 := by
    intro index
    split <;> simp [load]
  simp only [each, Finset.sum_ite_eq, Finset.mem_range]

/-- What one call sends somewhere is sent by somebody. -/
theorem Effect.sum_directed_le_outgoing (effect : network.Effect call next) {count : Nat}
    (counted : ∀ sender source, network.Holds sender source → sender < count) :
    ∑ index ∈ Finset.range count,
        load weight ((directed index network call).map (·.data.length)) ≤
      ∑ index ∈ Finset.range count, load weight (outgoing index network call) := by
  cases effect with
  | unsent sender destination data failed => simp [directed_of_failed failed, load]
  | @sent sender source holds destination data =>
      simp only [outgoing_of_holds holds, directed_of_holds holds]
      rw [sum_load_ite, if_pos (counted sender source holds)]
      cases network.routes[destination]? with
      | none => simp [load]
      | some reached =>
          simp only [Option.some.injEq, apply_ite (List.map _), List.map_cons, List.map_nil]
          rw [sum_load_ite]
          split
          · exact le_rfl
          · exact Nat.zero_le _
  | _ => simp [directed, load]

theorem sum_directed_le_outgoing_run {count : Nat} (calls : List Call)
    (counted : ∀ index address, (network.run calls).address? index = some address →
      index < count) :
    ∑ index ∈ Finset.range count,
        load weight ((note (directed index) network calls).map (·.data.length)) ≤
      ∑ index ∈ Finset.range count, load weight (note (outgoing index) network calls) := by
  induction calls generalizing network with
  | nil => exact le_rfl
  | cons call later ih =>
      have now := (network.effect_after call).sum_directed_le_outgoing weight
        fun sender source holds =>
          counted sender source (address?_run holds.address?_eq (call :: later))
      have afterwards := ih counted
      simp only [note, List.map_append, load_append, Finset.sum_add_distrib]
      exact Nat.add_le_add now afterwards

/-- Copies are no larger than the datagrams they are taken from. -/
theorem load_copies_le (monotone : Monotone weight) {received : List Copy} {taken : List Arrival}
    (copied : List.Forall₂ Copy.Of received taken) :
    load weight (received.map (·.data.length)) ≤ load weight (taken.map (·.data.length)) := by
  unfold load
  apply List.Forall₂.sum_le_sum
  simp only [List.forall₂_map_left_iff, List.forall₂_map_right_iff]
  refine copied.imp fun copy arrival same => monotone ?_
  rw [same.size]
  exact Nat.min_le_left _ _

/-- What is received over all transports was sent. -/
theorem sum_copies_le_outgoing_run (monotone : Monotone weight) {count : Nat} (calls : List Call)
    (counted : ∀ index address, (empty.run calls).address? index = some address →
      index < count) :
    ∑ index ∈ Finset.range count,
        load weight ((note (copies index) empty calls).map (·.data.length)) ≤
      ∑ index ∈ Finset.range count, load weight (note (outgoing index) empty calls) := by
  have each : ∀ index, load weight ((note (copies index) empty calls).map (·.data.length)) ≤
      load weight ((note (directed index) empty calls).map (·.data.length)) := by
    intro index
    obtain ⟨taken, same, copied⟩ := routed_empty.inbox_run calls index
    have all : note (directed index) empty calls = taken ++ (empty.run calls).inbox index := same
    rw [all, List.map_append, load_append]
    exact (load_copies_le weight monotone copied).trans (Nat.le_add_right _ _)
  exact (Finset.sum_le_sum fun index _ => each index).trans
    (sum_directed_le_outgoing_run weight calls counted)

end

theorem lt_size_of_address? {address : SocketAddress}
    (found : network.address? index = some address) : index < network.transports.size := by
  by_contra beyond
  have missing : network.transports[index]? = none := Array.getElem?_eq_none (by omega)
  simp [address?, socket?, look, missing] at found

/-- Every transport has the datagrams that were sent to where the table led to it, received or
waiting, and the counters have what was carried. -/
structure Delivers (calls : List Call) (network : MemoryNetwork) : Prop where
  inOrder : ∀ index, ∃ taken,
    note (directed index) empty calls = taken ++ network.inbox index ∧
      List.Forall₂ Copy.Of (note (copies index) empty calls) taken
  routed : network.Routed
  sent : ∀ index, network.sent index = .total (note (outgoing index) empty calls)
  received : ∀ index, network.received index =
    .total ((note (copies index) empty calls).map (·.data.length))
  sends : ∀ index source, network.Holds index source → ∀ destination data, ∃ next,
    network.send index destination data = .ok (data.length, next) ∧
      next.sent index = (network.sent index).count data.length
  receives : ∀ index address, network.Holds index address → ∀ arrival later,
    network.inbox index = arrival :: later → ∀ capacity, ∃ next,
      network.receive index capacity =
        (.datagram (arrival.data.take capacity) arrival.source, next) ∧
      next.inbox index = later ∧
      next.received index =
        (network.received index).count (min arrival.data.length capacity)
  closed : ∀ index, network.isClosed index = true →
    (∀ destination data, network.send index destination data = .error .closed ∧
      network.after (.send index destination data) = network) ∧
    ∀ capacity, network.receive index capacity = (.closed, network)
  packets : ∑ index ∈ Finset.range network.transports.size,
      (note (copies index) empty calls).length ≤
    ∑ index ∈ Finset.range network.transports.size, (note (outgoing index) empty calls).length
  bytes : ∑ index ∈ Finset.range network.transports.size,
      ((note (copies index) empty calls).map (·.data.length)).sum ≤
    ∑ index ∈ Finset.range network.transports.size, (note (outgoing index) empty calls).sum
  counters :
    (∀ index, (note (outgoing index) empty calls).length < 2 ^ 64 ∧
      (note (outgoing index) empty calls).sum < 2 ^ 64) →
    ∑ index ∈ Finset.range network.transports.size, (network.received index).packets.toNat ≤
      ∑ index ∈ Finset.range network.transports.size, (network.sent index).packets.toNat ∧
    ∑ index ∈ Finset.range network.transports.size, (network.received index).bytes.toNat ≤
      ∑ index ∈ Finset.range network.transports.size, (network.sent index).bytes.toNat

theorem sent_total (calls : List Call) (index : Nat) :
    (empty.run calls).sent index = .total (note (outgoing index) empty calls) :=
  (sent_run empty calls index).trans (Traffic.foldl_count_none _)

theorem received_total (calls : List Call) (index : Nat) :
    (empty.run calls).received index =
      .total ((note (copies index) empty calls).map (·.data.length)) :=
  (received_run empty calls index).trans (Traffic.foldl_count_none _)

theorem packets_run (calls : List Call) :
    ∑ index ∈ Finset.range (empty.run calls).transports.size,
        (note (copies index) empty calls).length ≤
      ∑ index ∈ Finset.range (empty.run calls).transports.size,
        (note (outgoing index) empty calls).length := by
  have bound := sum_copies_le_outgoing_run (fun _ => 1) monotone_const calls
    fun _ _ => lt_size_of_address?
  simpa only [load_one, List.length_map] using bound

theorem bytes_run (calls : List Call) :
    ∑ index ∈ Finset.range (empty.run calls).transports.size,
        ((note (copies index) empty calls).map (·.data.length)).sum ≤
      ∑ index ∈ Finset.range (empty.run calls).transports.size,
        (note (outgoing index) empty calls).sum := by
  have bound := sum_copies_le_outgoing_run id monotone_id calls fun _ _ => lt_size_of_address?
  simpa only [load_id] using bound

theorem delivers_run (calls : List Call) : Delivers calls (empty.run calls) where
  inOrder := routed_empty.inbox_run calls
  routed := routed_empty.run calls
  sent := sent_total calls
  received := received_total calls
  sends index source holds destination data := by
    refine ⟨_, send_of_holds holds destination data, ?_⟩
    rw [sent_posted _ _ _ holds, if_pos rfl]
  receives index address holds arrival later waiting capacity := by
    refine ⟨_, receive_of_waiting holds waiting capacity, ?_, ?_⟩
    · rw [inbox_relieved, if_pos rfl, waiting]
      rfl
    · rw [received_relieved _ holds, if_pos rfl, List.length_take, Nat.min_comm]
  closed index isClosed :=
    ⟨fun destination data => ⟨send_of_isClosed isClosed destination data,
      after_send_of_isClosed isClosed destination data⟩, receive_of_isClosed isClosed⟩
  packets := packets_run calls
  bytes := bytes_run calls
  counters small := by
    constructor
    · calc
        _ ≤ _ := Finset.sum_le_sum fun index _ => by
          rw [received_total, Traffic.packets_total, List.length_map]
          exact Nat.mod_le _ _
        _ ≤ _ := packets_run calls
        _ = _ := Finset.sum_congr rfl fun index _ => by
          rw [sent_total, Traffic.packets_total, Nat.mod_eq_of_lt (small index).1]
    · calc
        _ ≤ _ := Finset.sum_le_sum fun index _ => by
          rw [received_total, Traffic.bytes_total]
          exact Nat.mod_le _ _
        _ ≤ _ := bytes_run calls
        _ = _ := Finset.sum_congr rfl fun index _ => by
          rw [sent_total, Traffic.bytes_total, Nat.mod_eq_of_lt (small index).2]

def sampleOffice : SocketAddress := .v4 ⟨⟨10, 0, 0, 2⟩, 1⟩

/-- What is left of a datagram that is cut off is lost. -/
example : note (copies 1) empty
    [.bind sampleHome, .bind sampleOffice, .send 0 sampleOffice [1, 2, 3], .receive 1 2,
      .receive 1 2] = [⟨2, [1, 2], sampleHome⟩] := by
  decide

end MemoryNetwork

end PeerDiscovery
