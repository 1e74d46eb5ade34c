import Mathlib.Data.List.Induction
import PeerDiscovery.Proofs.Transport.Calls

/-!
# Who is reached at an address

The routing table leads from an address to the transport that was bound to it last, unless
somebody has since closed a transport of that address, whichever one.  A transport that is
closed for a second time takes the address away from whoever holds it by then, so an open
transport is served exactly if nobody has disturbed it in this way.

When no transport is closed again while somebody else holds its address, the table has
exactly the open transports.
-/

namespace PeerDiscovery

namespace MemoryNetwork

variable {network : MemoryNetwork} {calls : List Call} {index : Nat} {address : SocketAddress}

/-- What a call does to the table and to the sockets. -/
inductive Reroutes (network : MemoryNetwork) : Call → MemoryNetwork → Prop where
  | kept {call : Call} {next : MemoryNetwork} (stays : ∀ index, call ≠ .close index)
      (routes : next.routes = network.routes) (sockets : next.socket? = network.socket?) :
      Reroutes network call next
  | bound (address : SocketAddress) {free : SocketAddress} (nextPort : UInt16)
      (isFree : network.routes[free]? = none) :
      Reroutes network (.bind address) (network.joined free nextPort)
  | closed (index : Nat) : Reroutes network (.close index) (network.close index)

theorem Effect.reroutes {call : Call} {next : MemoryNetwork} (effect : network.Effect call next) :
    network.Reroutes call next := by
  cases effect with
  | unbound => exact .kept nofun rfl rfl
  | bound address nextPort isFree => exact .bound address nextPort isFree
  | unsent => exact .kept nofun rfl rfl
  | sent holds destination data =>
      exact .kept nofun (routes_posted _ _ _) (socket?_posted _ _ _)
  | unreceived => exact .kept nofun rfl rfl
  | received => exact .kept nofun rfl (socket?_relieved _)
  | closed index => exact .closed index

theorem reroutes_after (network : MemoryNetwork) (call : Call) :
    network.Reroutes call (network.after call) :=
  (network.effect_after call).reroutes

theorem holds_joined_iff {bound : SocketAddress} {nextPort : UInt16} :
    (network.joined bound nextPort).Holds index address ↔
      (index = network.transports.size ∧ bound = address) ∨ network.Holds index address := by
  unfold Holds socket?
  rw [look_joined]
  split
  · rename_i new
    rw [new, look_size]
    simp [MemoryTransport.boundTo]
  · rename_i old
    simp [old]

theorem holds_close_iff {other : Nat} :
    (network.close other).Holds index address ↔ network.Holds index address ∧ other ≠ index := by
  unfold Holds
  rw [socket?_close]
  split
  · rename_i here
    simp [here]
  · rename_i elsewhere
    simp [elsewhere]

theorem Reroutes.address?_eq {call : Call} {next : MemoryNetwork}
    (reroutes : network.Reroutes call next) (found : network.address? index = some address) :
    next.address? index = some address := by
  cases reroutes with
  | kept stays routes sockets =>
      rw [address?, sockets]
      exact found
  | bound asked nextPort isFree =>
      have old : index ≠ network.transports.size := by
        rintro rfl
        simp [address?, socket?, look_size] at found
      rw [address?, socket?, look_joined, if_neg old]
      exact found
  | closed other =>
      unfold address? at found ⊢
      rw [socket?_close]
      split
      · rw [Option.map_map]
        exact found
      · exact found

theorem address?_run (found : network.address? index = some address) (calls : List Call) :
    (network.run calls).address? index = some address := by
  induction calls generalizing network with
  | nil => exact found
  | cons call later ih => exact ih ((network.reroutes_after call).address?_eq found)

theorem run_append (network : MemoryNetwork) (earlier later : List Call) :
    network.run (earlier ++ later) = (network.run earlier).run later :=
  List.foldl_append

theorem run_concat (network : MemoryNetwork) (calls : List Call) (call : Call) :
    network.run (calls ++ [call]) = (network.run calls).after call :=
  network.run_append calls [call]

/-- Since a transport was bound, no other transport of the same address was closed. -/
def Undisturbed (calls : List Call) (index : Nat) (address : SocketAddress) : Prop :=
  ∀ earlier other later, calls = earlier ++ .close other :: later →
    (empty.run earlier).Holds index address → other ≠ index →
      (empty.run earlier).address? other ≠ some address

/-- The last of some calls is the one in question, or it comes later. -/
theorem concat_eq_append_cons_iff {call first : Call} {earlier later : List Call} :
    calls ++ [call] = earlier ++ first :: later ↔
      (later = [] ∧ calls = earlier ∧ call = first) ∨
        ∃ rest, later = rest ++ [call] ∧ calls = earlier ++ first :: rest := by
  cases later using List.reverseRecOn with
  | nil => simp
  | append_singleton rest last =>
      rw [← List.cons_append, ← List.append_assoc]
      constructor
      · intro same
        obtain ⟨rfl, sameLast⟩ := List.append_inj' same rfl
        cases sameLast
        exact .inr ⟨rest, rfl, rfl⟩
      · rintro (⟨none, -⟩ | ⟨others, same, rfl⟩)
        · simp at none
        · obtain ⟨rfl, sameLast⟩ := List.append_inj' same rfl
          rw [sameLast]

theorem undisturbed_concat_of_stays {call : Call} (stays : ∀ other, call ≠ .close other) :
    Undisturbed (calls ++ [call]) index address ↔ Undisturbed calls index address := by
  unfold Undisturbed
  constructor
  · rintro undisturbed earlier other later rfl
    exact undisturbed earlier other (later ++ [call]) (by simp)
  · intro undisturbed earlier other later split
    rcases concat_eq_append_cons_iff.1 split with ⟨-, -, closes⟩ | ⟨rest, -, before⟩
    · exact absurd closes (stays other)
    · exact undisturbed earlier other rest before

theorem undisturbed_concat_close {other : Nat} :
    Undisturbed (calls ++ [.close other]) index address ↔
      Undisturbed calls index address ∧ ((empty.run calls).Holds index address → other ≠ index →
        (empty.run calls).address? other ≠ some address) := by
  unfold Undisturbed
  constructor
  · intro undisturbed
    refine ⟨?_, undisturbed calls other [] rfl⟩
    rintro earlier another later rfl
    exact undisturbed earlier another (later ++ [.close other]) (by simp)
  · rintro ⟨undisturbed, last⟩ earlier another later split
    rcases concat_eq_append_cons_iff.1 split with ⟨-, rfl, closes⟩ | ⟨rest, -, before⟩
    · cases closes
      exact last
    · exact undisturbed earlier another rest before

/-- A transport that is yet to be bound has not been disturbed. -/
theorem undisturbed_size (calls : List Call) (address : SocketAddress) :
    Undisturbed calls (empty.run calls).transports.size address := by
  rintro earlier other later split holds
  have kept := address?_run holds.address?_eq (.close other :: later)
  rw [← run_append, ← split, address?, socket?, look_size] at kept
  cases kept

/-- The table leads to the open transports that nobody has disturbed. -/
theorem routes_run (calls : List Call) (address : SocketAddress) (index : Nat) :
    (empty.run calls).routes[address]? = some index ↔
      (empty.run calls).Holds index address ∧ Undisturbed calls index address := by
  induction calls using List.reverseRecOn generalizing address index with
  | nil => simp [run, empty, holds_iff]
  | append_singleton calls call ih =>
      have reroutes := (empty.run calls).reroutes_after call
      rw [run_concat]
      generalize (empty.run calls).after call = next at reroutes ⊢
      cases reroutes with
      | kept stays sameRoutes sameSockets =>
          rw [undisturbed_concat_of_stays stays, sameRoutes, Holds, sameSockets]
          exact ih address index
      | @bound asked free nextPort isFree =>
          have stays : ∀ other, Call.bind asked ≠ .close other := by
            rintro other ⟨⟩
          rw [undisturbed_concat_of_stays stays, routes_joined, holds_joined_iff]
          constructor
          · intro led
            split at led
            · rename_i here
              cases led
              exact ⟨.inl ⟨rfl, here⟩, undisturbed_size calls address⟩
            · obtain ⟨holds, undisturbed⟩ := (ih address index).1 led
              exact ⟨.inr holds, undisturbed⟩
          · rintro ⟨⟨rfl, rfl⟩ | holds, undisturbed⟩
            · rw [if_pos rfl]
            · have led := (ih address index).2 ⟨holds, undisturbed⟩
              rw [if_neg (by rintro rfl; rw [isFree] at led; cases led)]
              exact led
      | closed other =>
          rw [routes_close, holds_close_iff, undisturbed_concat_close]
          constructor
          · intro led
            split at led
            · cases led
            · rename_i elsewhere
              obtain ⟨holds, undisturbed⟩ := (ih address index).1 led
              refine ⟨⟨holds, ?_⟩, undisturbed, fun _ _ => elsewhere⟩
              rintro rfl
              exact elsewhere holds.address?_eq
          · rintro ⟨⟨holds, differs⟩, undisturbed, apart⟩
            rw [if_neg (apart holds differs)]
            exact (ih address index).2 ⟨holds, undisturbed⟩

/-- The table leads to certain transports: they are reached at their addresses, and nobody
else can be bound there. -/
structure Serves (network : MemoryNetwork) (served : Nat → SocketAddress → Prop) : Prop where
  table : ∀ address index, network.routes[address]? = some index ↔ served index address
  reached : ∀ index address, served index address → ∀ sender source,
    network.Holds sender source → ∀ data other,
      (network.after (.send sender address data)).inbox other =
        if index = other then network.inbox other ++ [⟨data, source⟩] else network.inbox other
  refused : ∀ address, portIn address ≠ 0 →
    ((∃ cause, (network.bind address).1 = .error cause) ↔ ∃ index, served index address)

theorem serves_of_table {served : Nat → SocketAddress → Prop}
    (holds : ∀ address index, network.routes[address]? = some index →
      network.Holds index address)
    (table : ∀ address index, network.routes[address]? = some index ↔ served index address) :
    network.Serves served where
  table := table
  reached index address serving sender source sends data other := by
    have led := (table address index).2 serving
    rw [after_send_of_holds sends, inbox_posted, inbox_deliver (holds address index led) led]
  refused address port := by
    rw [bind_of_port network port]
    cases led : network.routes[address]? with
    | none =>
        constructor
        · rintro ⟨cause, ⟨⟩⟩
        · rintro ⟨index, serving⟩
          rw [← table, led] at serving
          cases serving
    | some index =>
        simp only [Option.isSome_some, if_true, Except.error.injEq, exists_eq', true_iff]
        exact ⟨index, (table address index).1 led⟩

/-- A transport is closed again only while nobody else holds its address. -/
def Careful (calls : List Call) : Prop :=
  ∀ earlier other later, calls = earlier ++ .close other :: later →
    (empty.run earlier).isClosed other = true →
      ∀ index address, (empty.run earlier).address? other = some address →
        ¬(empty.run earlier).Holds index address

theorem Careful.of_append {earlier later : List Call} (careful : Careful (earlier ++ later)) :
    Careful earlier := by
  rintro before other between rfl
  exact careful before other (between ++ later) (by simp)

/-- Two open transports of one address would both be led to, so with care nobody is disturbed. -/
theorem Careful.undisturbed (careful : Careful calls) (index : Nat) (address : SocketAddress) :
    Undisturbed calls index address := by
  induction calls using List.reverseRecOn generalizing index address with
  | nil =>
      intro earlier other later split
      simp at split
  | append_singleton calls call ih =>
      have before := ih careful.of_append
      cases call with
      | close other =>
          refine undisturbed_concat_close.2
            ⟨before index address, fun holds differs sameAddress => ?_⟩
          rcases holds_or_isClosed (empty.run calls) other with ⟨bound, also⟩ | closed
          · rw [also.address?_eq] at sameAddress
            cases sameAddress
            have first := (routes_run calls address index).2 ⟨holds, before index address⟩
            have second := (routes_run calls address other).2 ⟨also, before other address⟩
            rw [first] at second
            exact differs (Option.some.inj second).symm
          · exact careful calls other [] rfl closed index address sameAddress holds
      | _ =>
          refine (undisturbed_concat_of_stays ?_).2 (before index address)
          exact nofun

/-- The table serves the open transports that nobody has disturbed; where transports are closed
again with care, these are all open transports. -/
theorem serves_run (calls : List Call) :
    (empty.run calls).Serves (fun index address =>
      (empty.run calls).Holds index address ∧ Undisturbed calls index address) ∧
    (Careful calls → (empty.run calls).Serves (empty.run calls).Holds) := by
  have holds : ∀ address index, (empty.run calls).routes[address]? = some index →
      (empty.run calls).Holds index address :=
    fun address index led => ((routes_run calls address index).1 led).1
  refine ⟨serves_of_table holds (routes_run calls), fun careful => serves_of_table holds ?_⟩
  intro address index
  rw [routes_run]
  exact and_iff_left (careful.undisturbed index address)

def sampleHome : SocketAddress := .v4 ⟨⟨10, 0, 0, 1⟩, 1⟩

/-- A transport may be closed twice before its address is bound again. -/
theorem serves_run_closed_twice :
    Careful [.bind sampleHome, .close 0, .close 0, .bind sampleHome] ∧
      (empty.run [.bind sampleHome, .close 0, .close 0, .bind sampleHome]).Holds 1 sampleHome ∧
      (empty.run [.bind sampleHome, .close 0, .close 0, .bind sampleHome]).Serves
        (empty.run [.bind sampleHome, .close 0, .close 0, .bind sampleHome]).Holds := by
  have careful : Careful [.bind sampleHome, .close 0, .close 0, .bind sampleHome] := by
    have bound : empty.run [.bind sampleHome] = empty.joined sampleHome 0 :=
      congrArg Prod.snd ((empty.bind_of_port (by decide)).trans (if_neg (by decide)))
    intro earlier other later split closed index address _ holds
    rcases earlier with _ | ⟨first, _ | ⟨second, _ | ⟨third, _ | ⟨fourth, rest⟩⟩⟩⟩
    · cases split
    · cases split
      exact absurd closed (by decide)
    · cases split
      change ((empty.run [.bind sampleHome]).close 0).Holds index address at holds
      rw [bound, holds_close_iff, holds_joined_iff] at holds
      obtain ⟨⟨first, -⟩ | never, differs⟩ := holds
      · exact differs first.symm
      · simp [holds_iff, empty] at never
    · cases split
    · simp at split
  refine ⟨careful, ?_, (serves_run _).2 careful⟩
  unfold Holds
  decide

/-- A transport is closed once more while another one holds its address: that one stays open,
but nothing leads to it. -/
theorem not_serves_of_closed_again :
    (empty.run [.bind sampleHome, .close 0, .bind sampleHome, .close 0]).Holds 1 sampleHome ∧
      ¬(empty.run [.bind sampleHome, .close 0, .bind sampleHome, .close 0]).Serves
        (empty.run [.bind sampleHome, .close 0, .bind sampleHome, .close 0]).Holds := by
  have holds : (empty.run [.bind sampleHome, .close 0, .bind sampleHome, .close 0]).Holds 1
      sampleHome := by
    unfold Holds
    decide
  refine ⟨holds, fun serves => ?_⟩
  have led := (serves.table sampleHome 1).2 holds
  have lost : (empty.run [.bind sampleHome, .close 0, .bind sampleHome,
      .close 0]).routes[sampleHome]? = none := by decide
  rw [lost] at led
  cases led

end MemoryNetwork

end PeerDiscovery
