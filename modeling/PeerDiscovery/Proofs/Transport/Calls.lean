import PeerDiscovery.Transport.Memory

/-!
# Calls on a memory network

A memory network is used by binding, sending, receiving and closing.  This file says what
each of these calls does to the routing table and to what a transport is, holds and has
counted.  A transport is looked up by its index; one that was never bound holds nothing
and has counted nothing.
-/

namespace PeerDiscovery

namespace MemoryTransport

def gain (transport : MemoryTransport) (arrival : Arrival) : MemoryTransport :=
  { transport with inbox := transport.inbox ++ [arrival] }

def countSent (transport : MemoryTransport) (size : Nat) : MemoryTransport :=
  { transport with sent := transport.sent.count size }

/-- The transport once so much of its first datagram has been received. -/
def receiveFirst (transport : MemoryTransport) (size : Nat) : MemoryTransport :=
  { transport with
    inbox := transport.inbox.tail
    received := transport.received.count size }

def shut (transport : MemoryTransport) : MemoryTransport := { transport with isClosed := true }

end MemoryTransport

namespace MemoryNetwork

inductive Call where
  | bind (address : SocketAddress)
  | send (index : Nat) (destination : SocketAddress) (data : Bytes)
  | receive (index capacity : Nat)
  | close (index : Nat)

def after (network : MemoryNetwork) : Call → MemoryNetwork
  | .bind address => (network.bind address).2
  | .send index destination data =>
    match network.send index destination data with
    | .ok (_, next) => next
    | .error _ => network
  | .receive index capacity => (network.receive index capacity).2
  | .close index => network.close index

/-- The network after a list of calls, the first one first. -/
def run (network : MemoryNetwork) (calls : List Call) : MemoryNetwork := calls.foldl after network

def look {Part : Type} (network : MemoryNetwork) (part : MemoryTransport → Part) (index : Nat) :
    Option Part :=
  network.transports[index]?.map part

/-- The address of a transport, and whether the transport is closed. -/
def socket? (network : MemoryNetwork) : Nat → Option (SocketAddress × Bool) :=
  network.look fun transport => (transport.address, transport.isClosed)

/-- The address that a transport was bound to, whether or not it has been closed. -/
def address? (network : MemoryNetwork) (index : Nat) : Option SocketAddress :=
  (network.socket? index).map (·.1)

def Holds (network : MemoryNetwork) (index : Nat) (address : SocketAddress) : Prop :=
  network.socket? index = some (address, false)

def inbox (network : MemoryNetwork) (index : Nat) : List Arrival :=
  (network.look (·.inbox) index).getD []

def sent (network : MemoryNetwork) (index : Nat) : Traffic :=
  (network.look (·.sent) index).getD .none

def received (network : MemoryNetwork) (index : Nat) : Traffic :=
  (network.look (·.received) index).getD .none

variable {network : MemoryNetwork} {index : Nat} {address : SocketAddress} {Part : Type}

theorem holds_iff :
    network.Holds index address ↔ ∃ transport, network.transports[index]? = some transport ∧
      transport.address = address ∧ transport.isClosed = false := by
  simp [Holds, socket?, look]

theorem isClosed_eq (network : MemoryNetwork) (index : Nat) :
    network.isClosed index = (network.socket? index).all (·.2) := by
  simp [isClosed, socket?, look, Option.all_map]

theorem Holds.address?_eq (holds : network.Holds index address) :
    network.address? index = some address :=
  congrArg (Option.map Prod.fst) holds

theorem holds_or_isClosed (network : MemoryNetwork) (index : Nat) :
    (∃ address, network.Holds index address) ∨ network.isClosed index = true := by
  rw [isClosed_eq]
  unfold Holds
  rcases network.socket? index with _ | ⟨address, _ | _⟩ <;> simp

section

variable (index other : Nat) (part : MemoryTransport → Part)
  (change : MemoryTransport → MemoryTransport)

theorem look_modify :
    (network.modify index change).look part other =
      if index = other then (network.transports[other]?.map change).map part
      else network.look part other := by
  unfold look modify
  rw [Array.getElem?_modify]
  split <;> rfl

/-- A part that a change keeps is kept at every transport. -/
theorem look_modify_of_kept (kept : ∀ transport, part (change transport) = part transport) :
    (network.modify index change).look part = network.look part := by
  funext other
  rw [look_modify, Option.map_map]
  split
  · exact congrArg (Option.map · _) (funext kept)
  · rfl

end

/-- Two changes that agree on the transport at hand. -/
theorem modify_congr {change other : MemoryTransport → MemoryTransport}
    (agree : ∀ transport, network.transports[index]? = some transport →
      change transport = other transport) :
    network.modify index change = network.modify index other := by
  have same : network.transports.modify index change = network.transports.modify index other := by
    apply Array.ext_getElem?
    intro place
    rw [Array.getElem?_modify, Array.getElem?_modify]
    split
    · rename_i here
      subst here
      cases found : network.transports[index]? with
      | none => rfl
      | some transport => exact congrArg some (agree transport found)
    · rfl
  unfold modify
  rw [same]

def joined (network : MemoryNetwork) (bound : SocketAddress) (nextPort : UInt16) : MemoryNetwork :=
  { transports := network.transports.push (.boundTo bound)
    routes := network.routes.insert bound network.transports.size
    nextPort }

/-- Binding fails, which moves the counter of ports at most, or gives a new transport
an address that the table did not have. -/
theorem bind_cases (network : MemoryNetwork) (address : SocketAddress) :
    (∃ taken nextPort, network.bind address =
      (.error (.addressInUse taken), { network with nextPort })) ∨
    ∃ bound nextPort, network.routes[bound]? = none ∧
      network.bind address = (.ok bound, network.joined bound nextPort) := by
  unfold bind
  split
  · exact .inl ⟨address, network.nextPort, rfl⟩
  · rename_i bound nextPort chosen
    dsimp only
    split
    · exact .inl ⟨bound, nextPort, rfl⟩
    · rename_i free
      refine .inr ⟨bound, nextPort, ?_, rfl⟩
      exact Std.ExtTreeMap.getElem?_eq_none (by simpa using free)

/-- An address with a port is bound unless the table has it. -/
theorem bind_of_port (network : MemoryNetwork) (port : portIn address ≠ 0) :
    network.bind address = if network.routes[address]?.isSome
      then (.error (.addressInUse address), network)
      else (.ok address, network.joined address network.nextPort) := by
  unfold bind choose?
  rw [if_neg port]
  dsimp only
  rw [Std.ExtTreeMap.contains_eq_isSome_getElem?]
  rfl

theorem look_joined (bound : SocketAddress) (nextPort : UInt16) (part : MemoryTransport → Part)
    (index : Nat) :
    (network.joined bound nextPort).look part index =
      if index = network.transports.size then some (part (.boundTo bound))
      else network.look part index := by
  unfold look joined
  rw [Array.getElem?_push]
  split <;> rfl

theorem look_size (part : MemoryTransport → Part) :
    network.look part network.transports.size = none := by
  simp [look]

/-- A new transport has what one that was never bound has. -/
theorem getD_look_joined (part : MemoryTransport → Part) {value : Part}
    (fresh : ∀ bound, part (.boundTo bound) = value) (bound : SocketAddress) (nextPort : UInt16)
    (index : Nat) :
    ((network.joined bound nextPort).look part index).getD value =
      (network.look part index).getD value := by
  rw [look_joined]
  split
  · rename_i new
    rw [new, look_size, fresh]
    rfl
  · rfl

section

variable (bound : SocketAddress) (nextPort : UInt16)

theorem inbox_joined : (network.joined bound nextPort).inbox = network.inbox :=
  funext (getD_look_joined _ (fun _ => rfl) bound nextPort)

theorem sent_joined : (network.joined bound nextPort).sent = network.sent :=
  funext (getD_look_joined _ (fun _ => rfl) bound nextPort)

theorem received_joined : (network.joined bound nextPort).received = network.received :=
  funext (getD_look_joined _ (fun _ => rfl) bound nextPort)

end

theorem routes_joined (bound : SocketAddress) (nextPort : UInt16) (address : SocketAddress) :
    (network.joined bound nextPort).routes[address]? =
      if bound = address then some network.transports.size else network.routes[address]? := by
  simp [joined, Std.ExtTreeMap.getElem?_insert]

/-- The network once a datagram of a transport is on its way. -/
def posted (network : MemoryNetwork) (index : Nat) (source destination : SocketAddress)
    (data : Bytes) : MemoryNetwork :=
  (network.deliver destination ⟨data, source⟩).modify index (·.countSent data.length)

theorem send_of_holds {source : SocketAddress} (holds : network.Holds index source)
    (destination : SocketAddress) (data : Bytes) :
    network.send index destination data =
      .ok (data.length, network.posted index source destination data) := by
  obtain ⟨transport, found, rfl, isOpen⟩ := holds_iff.1 holds
  simp only [send, found, isOpen, Bool.false_eq_true, if_false]
  rfl

theorem send_of_isClosed (closed : network.isClosed index = true) (destination : SocketAddress)
    (data : Bytes) : network.send index destination data = .error .closed := by
  unfold send
  split
  · rfl
  · rename_i transport found
    rw [isClosed, found, Option.all_some] at closed
    rw [if_pos closed]

theorem deliver_of_led {destination : SocketAddress} {reached : Nat}
    (led : network.routes[destination]? = some reached) (arrival : Arrival) :
    network.deliver destination arrival = network.modify reached (·.gain arrival) := by
  unfold deliver
  rw [led]
  rfl

/-- A datagram that nobody is bound to receive is lost. -/
theorem deliver_of_lost {destination : SocketAddress}
    (lost : network.routes[destination]? = none) (arrival : Arrival) :
    network.deliver destination arrival = network := by
  unfold deliver
  rw [lost]

theorem look_deliver_of_kept (part : MemoryTransport → Part)
    (kept : ∀ transport arrival, part (transport.gain arrival) = part transport)
    (destination : SocketAddress) (arrival : Arrival) :
    (network.deliver destination arrival).look part = network.look part := by
  cases led : network.routes[destination]? with
  | none => rw [deliver_of_lost led]
  | some reached =>
      rw [deliver_of_led led]
      exact look_modify_of_kept reached part _ (kept · arrival)

/-- A part that neither gaining nor counting touches. -/
theorem look_posted_of_kept (part : MemoryTransport → Part)
    (keptGaining : ∀ transport arrival, part (transport.gain arrival) = part transport)
    (keptCounting : ∀ transport size, part (transport.countSent size) = part transport)
    (source destination : SocketAddress) (data : Bytes) :
    (network.posted index source destination data).look part = network.look part :=
  (look_modify_of_kept index part _ (keptCounting · _)).trans
    (look_deliver_of_kept part keptGaining _ _)

section

variable (source destination : SocketAddress) (data : Bytes)

theorem routes_posted :
    (network.posted index source destination data).routes = network.routes := by
  unfold posted deliver
  split <;> rfl

theorem socket?_posted :
    (network.posted index source destination data).socket? = network.socket? :=
  look_posted_of_kept _ (fun _ _ => rfl) (fun _ _ => rfl) source destination data

theorem received_posted :
    (network.posted index source destination data).received = network.received := by
  unfold received
  rw [look_posted_of_kept _ (fun _ _ => rfl) (fun _ _ => rfl)]

theorem sent_posted (held : network.Holds index source) (other : Nat) :
    (network.posted index source destination data).sent other =
      if index = other then (network.sent other).count data.length else network.sent other := by
  have kept : (network.deliver destination ⟨data, source⟩).look (·.sent) = network.look (·.sent) :=
    look_deliver_of_kept _ (fun _ _ => rfl) _ _
  unfold sent posted
  rw [look_modify]
  split
  · rename_i here
    subst here
    obtain ⟨transport, found, -, -⟩ := holds_iff.1 held
    have before := congrFun kept index
    rw [look, look, found, Option.map_some] at before
    obtain ⟨next, reached, same⟩ := Option.map_eq_some_iff.1 before
    simp [look, found, reached, MemoryTransport.countSent, same]
  · rw [kept]

theorem inbox_posted (other : Nat) :
    (network.posted index source destination data).inbox other =
      (network.deliver destination ⟨data, source⟩).inbox other := by
  unfold inbox posted
  rw [look_modify_of_kept index (·.inbox) (·.countSent _) fun _ => rfl]

theorem inbox_deliver {destination : SocketAddress} {reached : Nat} {bound : SocketAddress}
    (held : network.Holds reached bound) (led : network.routes[destination]? = some reached)
    (arrival : Arrival) (other : Nat) :
    (network.deliver destination arrival).inbox other =
      if reached = other then network.inbox other ++ [arrival] else network.inbox other := by
  unfold inbox
  rw [deliver_of_led led, look_modify]
  split
  · rename_i here
    subst here
    obtain ⟨transport, found, -, -⟩ := holds_iff.1 held
    simp [look, found, MemoryTransport.gain]
  · rfl

end

/-- The network once a transport has received the first of its datagrams. -/
def relieved (network : MemoryNetwork) (index size : Nat) : MemoryNetwork :=
  network.modify index (·.receiveFirst size)

theorem receive_of_isClosed (closed : network.isClosed index = true) (capacity : Nat) :
    network.receive index capacity = (.closed, network) := by
  unfold receive
  split
  · rfl
  · rename_i transport found
    rw [isClosed, found, Option.all_some] at closed
    rw [if_pos closed]

theorem receive_of_waiting (holds : network.Holds index address) {arrival : Arrival}
    {later : List Arrival} (waiting : network.inbox index = arrival :: later) (capacity : Nat) :
    network.receive index capacity =
      (.datagram (arrival.data.take capacity) arrival.source,
        network.relieved index (arrival.data.take capacity).length) := by
  obtain ⟨transport, found, rfl, isOpen⟩ := holds_iff.1 holds
  have first : transport.inbox = arrival :: later := by
    simpa [inbox, look, found] using waiting
  simp only [receive, found, isOpen, first, Bool.false_eq_true, if_false]
  refine congrArg _ (modify_congr fun other here => ?_)
  cases found.symm.trans here
  rw [MemoryTransport.receiveFirst, first]
  rfl

theorem receive_of_empty (nothing : network.inbox index = []) (capacity : Nat) :
    network.receive index capacity = (.pending, network) ∨
      network.receive index capacity = (.closed, network) := by
  unfold receive
  split
  · exact .inr rfl
  · rename_i transport found
    have vacant : transport.inbox = [] := by simpa [inbox, look, found] using nothing
    rw [vacant]
    split
    · exact .inr rfl
    · dsimp only
      split
      · exact .inl rfl
      · exact .inr rfl

section

variable (size : Nat)

theorem socket?_relieved : (network.relieved index size).socket? = network.socket? :=
  look_modify_of_kept index _ _ fun _ => rfl

theorem sent_relieved : (network.relieved index size).sent = network.sent := by
  unfold sent relieved
  rw [look_modify_of_kept index (·.sent) (·.receiveFirst _) fun _ => rfl]

theorem inbox_relieved (other : Nat) :
    (network.relieved index size).inbox other =
      if index = other then (network.inbox other).tail else network.inbox other := by
  unfold inbox relieved
  rw [look_modify]
  split
  · unfold look
    cases network.transports[other]? <;> rfl
  · rfl

theorem received_relieved (held : network.Holds index address) (other : Nat) :
    (network.relieved index size).received other =
      if index = other then (network.received other).count size else network.received other := by
  unfold received relieved
  rw [look_modify]
  split
  · rename_i here
    subst here
    obtain ⟨transport, found, -, -⟩ := holds_iff.1 held
    simp [look, found, MemoryTransport.receiveFirst]
  · rfl

end

theorem close_eq (network : MemoryNetwork) (index : Nat) :
    network.close index =
      match network.address? index with
      | some address =>
        { network.modify index MemoryTransport.shut with routes := network.routes.erase address }
      | none => network := by
  unfold close address? socket? look
  cases network.transports[index]? <;> rfl

theorem routes_close (index : Nat) (address : SocketAddress) :
    (network.close index).routes[address]? =
      if network.address? index = some address then none else network.routes[address]? := by
  rw [close_eq]
  cases network.address? index with
  | none => rfl
  | some bound => simp [Std.ExtTreeMap.getElem?_erase]

theorem look_close_of_kept (index : Nat) (part : MemoryTransport → Part)
    (kept : ∀ transport, part transport.shut = part transport) :
    (network.close index).look part = network.look part := by
  rw [close_eq]
  split
  · exact look_modify_of_kept index part _ kept
  · rfl

theorem socket?_close (index other : Nat) :
    (network.close index).socket? other =
      if index = other then (network.socket? other).map fun socket => (socket.1, true)
      else network.socket? other := by
  rw [close_eq]
  cases found : network.address? index with
  | none =>
      have missing : network.socket? index = none := Option.map_eq_none_iff.1 found
      by_cases here : index = other
      · rw [if_pos here, ← here, missing]
        rfl
      · rw [if_neg here]
  | some bound =>
      have shut : (network.modify index MemoryTransport.shut).socket? other =
          if index = other then (network.socket? other).map fun socket => (socket.1, true)
          else network.socket? other := by
        unfold socket?
        rw [look_modify, look, Option.map_map, Option.map_map]
        rfl
      exact shut

theorem inbox_close (index : Nat) : (network.close index).inbox = network.inbox := by
  unfold inbox
  rw [look_close_of_kept index _ fun _ => rfl]

theorem sent_close (index : Nat) : (network.close index).sent = network.sent := by
  unfold sent
  rw [look_close_of_kept index _ fun _ => rfl]

theorem received_close (index : Nat) : (network.close index).received = network.received := by
  unfold received
  rw [look_close_of_kept index _ fun _ => rfl]

theorem isClosed_congr {other : MemoryNetwork} (same : other.socket? = network.socket?) :
    other.isClosed = network.isClosed := by
  funext index
  rw [isClosed_eq, isClosed_eq, same]

theorem isClosed_send {next : MemoryNetwork} {size : Nat} {destination : SocketAddress}
    {data : Bytes} (sent : network.send index destination data = .ok (size, next)) :
    next.isClosed = network.isClosed := by
  rcases network.holds_or_isClosed index with ⟨source, holds⟩ | closed
  · rw [send_of_holds holds] at sent
    cases sent
    exact isClosed_congr (socket?_posted _ _ _)
  · rw [send_of_isClosed closed] at sent
    cases sent

theorem isClosed_receive (network : MemoryNetwork) (index capacity : Nat) :
    (network.receive index capacity).2.isClosed = network.isClosed := by
  rcases network.holds_or_isClosed index with ⟨address, holds⟩ | closed
  · cases waiting : network.inbox index with
    | nil => rcases receive_of_empty waiting capacity with same | same <;> rw [same]
    | cons arrival later =>
        rw [receive_of_waiting holds waiting]
        exact isClosed_congr (socket?_relieved _)
  · rw [receive_of_isClosed closed]

theorem isClosed_close_self (network : MemoryNetwork) (index : Nat) :
    (network.close index).isClosed index = true := by
  rw [isClosed_eq, socket?_close, if_pos rfl]
  cases network.socket? index <;> rfl

theorem after_send_of_holds {source : SocketAddress} (holds : network.Holds index source)
    (destination : SocketAddress) (data : Bytes) :
    network.after (.send index destination data) =
      network.posted index source destination data := by
  simp only [after, send_of_holds holds]

theorem after_send_of_isClosed (closed : network.isClosed index = true)
    (destination : SocketAddress) (data : Bytes) :
    network.after (.send index destination data) = network := by
  simp only [after, send_of_isClosed closed]

/-- What a call can make of a network. -/
inductive Effect (network : MemoryNetwork) : Call → MemoryNetwork → Prop where
  | unbound (address : SocketAddress) (nextPort : UInt16) :
      Effect network (.bind address) { network with nextPort }
  | bound (address : SocketAddress) {free : SocketAddress} (nextPort : UInt16)
      (isFree : network.routes[free]? = none) :
      Effect network (.bind address) (network.joined free nextPort)
  | unsent (index : Nat) (destination : SocketAddress) (data : Bytes)
      (failed : network.send index destination data = .error .closed) :
      Effect network (.send index destination data) network
  | sent {index : Nat} {source : SocketAddress} (holds : network.Holds index source)
      (destination : SocketAddress) (data : Bytes) :
      Effect network (.send index destination data) (network.posted index source destination data)
  | unreceived (index capacity : Nat) {receipt : Receipt}
      (failed : network.receive index capacity = (receipt, network))
      (nothing : ∀ data source, receipt ≠ .datagram data source) :
      Effect network (.receive index capacity) network
  | received {index : Nat} {address : SocketAddress} (holds : network.Holds index address)
      {arrival : Arrival} {later : List Arrival} (waiting : network.inbox index = arrival :: later)
      (capacity : Nat) :
      Effect network (.receive index capacity)
        (network.relieved index (arrival.data.take capacity).length)
  | closed (index : Nat) : Effect network (.close index) (network.close index)

/-- Whatever a proof needs of a call follows from these cases. -/
theorem effect_after (network : MemoryNetwork) (call : Call) :
    network.Effect call (network.after call) := by
  cases call with
  | bind address =>
      rcases network.bind_cases address with ⟨taken, nextPort, failed⟩ |
        ⟨free, nextPort, isFree, done⟩
      · rw [after, failed]
        exact .unbound address nextPort
      · rw [after, done]
        exact .bound address nextPort isFree
  | send index destination data =>
      rcases network.holds_or_isClosed index with ⟨source, holds⟩ | closed
      · rw [after_send_of_holds holds]
        exact .sent holds destination data
      · rw [after_send_of_isClosed closed]
        exact .unsent index destination data (send_of_isClosed closed destination data)
  | receive index capacity =>
      rcases network.holds_or_isClosed index with ⟨address, holds⟩ | closed
      · cases waiting : network.inbox index with
        | nil =>
            rcases receive_of_empty waiting capacity with failed | failed
            all_goals
              rw [after, failed]
              exact .unreceived index capacity failed nofun
        | cons arrival later =>
            rw [after, receive_of_waiting holds waiting]
            exact .received holds waiting capacity
      · have failed := receive_of_isClosed closed capacity
        rw [after, failed]
        exact .unreceived index capacity failed nofun
  | close index => exact .closed index

end MemoryNetwork

end PeerDiscovery
