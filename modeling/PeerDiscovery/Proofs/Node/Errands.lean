import PeerDiscovery.Node.Cluster
import PeerDiscovery.Proofs.Node.Standing
import PeerDiscovery.Proofs.Transport.Calls

/-!
# What errands leave alone

Datagrams that are sent, inboxes that are emptied and packets that are handed over change
neither the standing of any node nor which transports are closed, and nothing that a node sent
or told stays with it.  So the standing of a cluster changes with calls only, however many
errands are done in between.
-/

namespace PeerDiscovery

namespace Cluster

/-- How the nodes stand, each with its transport, and which transports are closed. -/
def standing (cluster : Cluster) : List (Standing × Nat) × (Nat → Bool) :=
  (cluster.members.map fun member => (member.node.standing, member.transport),
    cluster.network.isClosed)

/-- What the node at an index has sent and told was taken from it. -/
def IsQuiet (cluster : Cluster) (index : Nat) : Prop :=
  ∀ member, cluster.members[index]? = some member →
    member.node.outbox = [] ∧ member.node.notices = []

/-- All nodes stand as they did, and the one at an index is as quiet as it was. -/
structure Persists (index : Nat) (before after : Cluster) : Prop where
  standing : after.standing = before.standing
  quiet : before.IsQuiet index → after.IsQuiet index

variable {cluster : Cluster} {index : Nat}

namespace Persists

theorem refl (index : Nat) (cluster : Cluster) : Persists index cluster cluster := ⟨rfl, id⟩

theorem trans {first second third : Cluster} (before : Persists index first second)
    (after : Persists index second third) : Persists index first third :=
  ⟨after.standing.trans before.standing, after.quiet ∘ before.quiet⟩

theorem of_members {before after : Cluster} (members : after.members = before.members)
    (closed : after.network.isClosed = before.network.isClosed) : Persists index before after where
  standing := by
    unfold Cluster.standing
    rw [members, closed]
  quiet := by
    unfold IsQuiet
    rw [members]
    exact id

end Persists

theorem standing_collect (cluster : Cluster) (index : Nat) (member : Member) (node : Node) :
    (cluster.collect index member node).standing =
      (cluster.standing.1.set index (node.standing, member.transport), cluster.standing.2) :=
  Prod.ext List.map_set rfl

theorem isQuiet_collect (cluster : Cluster) (index : Nat) (member : Member) (node : Node) :
    (cluster.collect index member node).IsQuiet index := by
  intro member' found
  obtain ⟨inside, here⟩ := List.getElem?_eq_some_iff.1 found
  rw [← here]
  simp [collect]

theorem collect_of_isQuiet {member : Member} (found : cluster.members[index]? = some member)
    (quiet : cluster.IsQuiet index) : cluster.collect index member member.node = cluster := by
  obtain ⟨noDatagram, noNotice⟩ := quiet member found
  obtain ⟨inside, here⟩ := List.getElem?_eq_some_iff.1 found
  have same : ({ member with node := { member.node with outbox := [], notices := [] } } : Member) =
      cluster.members[index] := by
    rw [here, ← noDatagram, ← noNotice]
  unfold collect
  rw [same, List.set_getElem_self]
  simp [noDatagram, noNotice]

/-- A node does something that leaves it standing. -/
theorem persists_act {work : Moment → Node → Node} {acting : Nat} {now : Instant}
    (keeps : ∀ member, cluster.members[acting]? = some member →
      (work (cluster.momentOf member now) member.node).standing = member.node.standing) :
    Persists index cluster (cluster.act acting now work) := by
  unfold act
  split
  · rename_i member found
    have stood : cluster.standing.1[acting]? = some (member.node.standing, member.transport) := by
      simp [standing, found]
    obtain ⟨inside, here⟩ := List.getElem?_eq_some_iff.1 stood
    refine ⟨?_, fun quiet => ?_⟩
    · rw [standing_collect, keeps member found, ← here, List.set_getElem_self]
    · by_cases same : acting = index
      · subst same
        exact isQuiet_collect _ _ _ _
      · intro other foundThere
        exact quiet other ((List.getElem?_set_ne same).symm.trans foundThere)
  · exact .refl index cluster

theorem persists_wake (cluster : Cluster) (address : SocketAddress) :
    Persists index cluster (cluster.wake address) := by
  unfold wake
  split
  · split <;> exact .of_members rfl rfl
  · exact .refl index cluster

theorem persists_transmit (cluster : Cluster) (transport : Nat) (datagram : Datagram) :
    Persists index cluster (cluster.transmit transport datagram) := by
  unfold transmit
  split
  · rename_i next sent
    obtain ⟨⟨_, network⟩, delivered, ⟨⟩⟩ := bind_eq_ok_iff.1 sent
    have unclosed : Persists index cluster { cluster with network } :=
      .of_members rfl (MemoryNetwork.isClosed_send delivered)
    exact unclosed.trans (persists_wake _ _)
  · exact .of_members rfl rfl

theorem persists_drain (cluster : Cluster) (receiver transport limit : Nat) :
    Persists index cluster (cluster.drain receiver transport limit) := by
  induction limit generalizing cluster with
  | zero => exact .refl index cluster
  | succ limit ih =>
      unfold drain
      split
      · rename_i data source received receipt
        have taken : Persists index cluster (cluster.receive transport maxDatagramSize).2 :=
          .of_members rfl (cluster.network.isClosed_receive transport maxDatagramSize)
        rw [receipt] at taken
        refine taken.trans (Persists.trans ?_ (ih _))
        exact .of_members rfl rfl
      · exact .refl index cluster

theorem persists_emptyInbox (cluster : Cluster) (receiver : Nat) :
    Persists index cluster (cluster.emptyInbox receiver) := by
  unfold emptyInbox
  split
  · exact persists_drain _ _ _ _
  · exact .refl index cluster

theorem persists_perform (cluster : Cluster) (now : Instant) (pick : Nat) (errand : Errand) :
    Persists index cluster (cluster.perform now pick errand) := by
  cases errand with
  | send sender datagram =>
      unfold perform
      dsimp only
      split
      · exact persists_transmit _ _ _
      · exact .refl index cluster
  | collect receiver => exact persists_emptyInbox _ _
  | dispatch receiver packet =>
      unfold perform
      exact persists_act fun member _ => member.node.standing_dispatch _ packet pick

/-- However many errands are done, the nodes stand as they did. -/
theorem persists_settle (cluster : Cluster) (now : Instant) (pick limit : Nat) :
    Persists index cluster (cluster.settle now pick limit) := by
  induction limit generalizing cluster with
  | zero => exact .refl index cluster
  | succ limit ih =>
      unfold settle
      split
      · exact .refl index cluster
      · rename_i errand rest _
        have begun : Persists index cluster { cluster with errands := rest } :=
          .of_members rfl rfl
        exact begun.trans ((persists_perform _ now pick errand).trans (ih _))

theorem persists_tick (cluster : Cluster) (acting : Nat) (now : Instant) (draw : Draw)
    (pick : Nat) :
    Persists index cluster
      (cluster.act acting now fun moment node => node.tick moment draw pick) :=
  persists_act fun member _ => member.node.standing_tick _ draw pick

end Cluster

end PeerDiscovery
