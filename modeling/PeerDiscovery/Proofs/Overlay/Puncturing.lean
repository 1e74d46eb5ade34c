import PeerDiscovery.Proofs.Overlay.Receiving
import PeerDiscovery.Proofs.Packet.Building

/-!
# Where punctures go

Whoever is asked to open a way to a walker sends one puncture, signed and with its own estimates.
Its target is chosen by the IP of the walker's WAN address alone: the LAN address behind the own
router, the WAN address elsewhere.  The address that is chosen may be the empty one though the
walker has told the other one, and then the puncture goes nowhere.  Whoever gets the same two
addresses in a response tries the WAN address of a walker nearby that tells no LAN address.
-/

namespace PeerDiscovery

namespace Activity

variable {activity : Activity} {packet : Packet} {unsigned : Unsigned Puncture}

/-- A puncture with the own estimates, at the next global time. -/
def ownPuncture (activity : Activity) (destination : Address) (identifier : UInt16) : Datagram :=
  ⟨destination, (activity.claimTime.overlay.draft MembershipMessage.puncture.id true).frame
    (⟨activity.lan, activity.wan, identifier⟩ : Puncture).encode⟩

/-- What an overlay sends that is asked to open a way to a walker. -/
structure Punctures (activity : Activity) (walker : Puncture) (next : Activity)
    (destination : Address) : Prop where
  sent : next.sent = activity.sent ++ [activity.ownPuncture destination walker.identifier]
  nearby : walker.wan.ip = activity.wan.ip → destination = walker.lan
  remote : walker.wan.ip ≠ activity.wan.ip → destination = walker.wan
  /-- The puncture goes nowhere if the walker has not told the address that is chosen. -/
  nowhere : destination = .empty ↔
    (walker.wan.ip = activity.wan.ip ∧ walker.lan = .empty) ∨
      (walker.wan.ip ≠ activity.wan.ip ∧ walker.wan = .empty)
  opens : ∀ (source : Address) (now : Instant),
    activity.overlay.key.Vouches
      ((activity.claimTime.overlay.draft MembershipMessage.puncture.id true).front ++
        (⟨activity.lan, activity.wan, walker.identifier⟩ : Puncture).encode) →
    ∃ signed,
      (⟨source, (activity.ownPuncture destination walker.identifier).data⟩ : Packet).openSigned
        Puncture.format now = .ok signed ∧
      Packet.OpenedAs signed activity.overlay.key.publicKey source
        (activity.overlay.globalTime + 1) ⟨activity.lan, activity.wan, walker.identifier⟩

theorem punctureTarget_nearby {ownWan : Address} {walker : Puncture}
    (nearby : walker.wan.ip = ownWan.ip) : punctureTarget ownWan walker = walker.lan := by
  rw [punctureTarget, if_pos nearby]

theorem punctureTarget_remote {ownWan : Address} {walker : Puncture}
    (remote : walker.wan.ip ≠ ownWan.ip) : punctureTarget ownWan walker = walker.wan := by
  rw [punctureTarget, if_neg remote]

theorem punctureTarget_eq_empty_iff (ownWan : Address) (walker : Puncture) :
    punctureTarget ownWan walker = .empty ↔
      (walker.wan.ip = ownWan.ip ∧ walker.lan = .empty) ∨
        (walker.wan.ip ≠ ownWan.ip ∧ walker.wan = .empty) := by
  by_cases nearby : walker.wan.ip = ownWan.ip
  · rw [punctureTarget_nearby nearby]
    simp [nearby]
  · rw [punctureTarget_remote nearby]
    simp [nearby]

theorem receive_of_openUnsigned (carried : packet.Carries activity.service .punctureRequest)
    (opened : packet.openUnsigned Puncture.format = .ok unsigned) (pick : Nat) :
    activity.receive packet pick = (activity.noteHeard packet).puncture unsigned.payload :=
  receive_of_takeMembership carried (bind_eq_ok_iff.2 ⟨unsigned, opened, rfl⟩)

/-- Hearing from somebody changes neither the own estimates nor the clock. -/
theorem sent_puncture_noteHeard (activity : Activity) (packet : Packet) (walker : Puncture) :
    ((activity.noteHeard packet).puncture walker).sent = activity.sent ++
      [activity.ownPuncture (punctureTarget activity.wan walker) walker.identifier] := rfl

/-- Every request for a puncture that can be decoded is answered by one puncture, but not always
to somewhere. -/
theorem punctures_receive (carried : packet.Carries activity.service .punctureRequest)
    (opened : packet.openUnsigned Puncture.format = .ok unsigned) (pick : Nat) :
    ∃ destination, Punctures activity unsigned.payload (activity.receive packet pick)
      destination := by
  refine ⟨punctureTarget activity.wan unsigned.payload,
    { sent := ?_
      nearby := punctureTarget_nearby
      remote := punctureTarget_remote
      nowhere := punctureTarget_eq_empty_iff activity.wan unsigned.payload
      opens := ?_ }⟩
  · rw [receive_of_openUnsigned carried opened]
    exact sent_puncture_noteHeard activity packet unsigned.payload
  · intro source now vouched
    have decoded := Puncture.decode_encode_append
      ⟨activity.lan, activity.wan, unsigned.payload.identifier⟩ []
    rw [List.append_nil] at decoded
    exact Packet.Draft.openSigned_frame rfl vouched decoded source now

def sampleNeighbour : Activity :=
  .start (OverlayPlan.build { settings := { service := ⟨Block.ofNatLE 20 0⟩ } } Packet.sampleSigner)
    ⟨.empty, ⟨[⟨0, ⟨⟨9, 9, 9, 9⟩, 9⟩, .empty, ⟨⟨1, 1, 1, 1⟩, 7⟩⟩]⟩⟩ ⟨0, true⟩

/-- A walker behind the same router, which may tell a LAN address. -/
def sampleRoamer (lan : Address) : Puncture := ⟨lan, ⟨⟨1, 1, 1, 1⟩, 1⟩, 42⟩

def sampleAppealDraft : Packet.Draft :=
  .plain sampleNeighbour.service MembershipMessage.punctureRequest.id 1

def sampleAppeal (lan : Address) : Packet :=
  ⟨⟨⟨2, 2, 2, 2⟩, 1⟩, sampleAppealDraft.frame (sampleRoamer lan).encode⟩

theorem data_sampleAppeal (lan : Address) :
    (sampleAppeal lan).data = sampleAppealDraft.frame (sampleRoamer lan).encode := rfl

theorem carries_sampleAppeal (lan : Address) :
    (sampleAppeal lan).Carries sampleNeighbour.service .punctureRequest :=
  (Packet.Draft.carries_frame_iff (data_sampleAppeal lan)).2 ⟨rfl, rfl⟩

theorem openUnsigned_sampleAppeal (lan : Address) :
    (sampleAppeal lan).openUnsigned Puncture.format = .ok ⟨1, sampleRoamer lan⟩ := by
  have decoded : Puncture.format.decode (sampleRoamer lan).encode = .ok (sampleRoamer lan, []) := by
    have read := (sampleRoamer lan).decode_encode_append []
    rwa [List.append_nil] at read
  exact Packet.Draft.openUnsigned_frame rfl (data_sampleAppeal lan) decoded

theorem punctures_receive_sample :
    ∃ destination, Punctures sampleNeighbour (sampleRoamer ⟨⟨10, 0, 0, 1⟩, 1⟩)
      (sampleNeighbour.receive (sampleAppeal ⟨⟨10, 0, 0, 1⟩, 1⟩) 0) destination :=
  punctures_receive (carries_sampleAppeal _) (openUnsigned_sampleAppeal _) 0

/-- A walker behind the same router that tells its WAN address only is sent a puncture to nowhere.
The same addresses in a response lead to its WAN address. -/
theorem punctures_nowhere_sample :
    (sampleAppeal .empty).Carries sampleNeighbour.service .punctureRequest ∧
      (sampleAppeal .empty).openUnsigned Puncture.format = .ok ⟨1, sampleRoamer .empty⟩ ∧
      (sampleRoamer .empty).wan ≠ .empty ∧
      (sampleNeighbour.receive (sampleAppeal .empty) 0).sent =
        [sampleNeighbour.ownPuncture .empty 42] ∧
      (sampleRoamer .empty).wan ∈ candidates sampleNeighbour.lan sampleNeighbour.wan
        (sampleRoamer .empty).lan (sampleRoamer .empty).wan := by
  refine ⟨carries_sampleAppeal .empty, openUnsigned_sampleAppeal .empty, by decide, ?_, by decide⟩
  rw [receive_of_openUnsigned (carries_sampleAppeal .empty) (openUnsigned_sampleAppeal .empty),
    sent_puncture_noteHeard]
  rfl

end Activity

end PeerDiscovery
