import PeerDiscovery.Proofs.Key.Boxes
import PeerDiscovery.Proofs.Overlay.Acceptance
import PeerDiscovery.Proofs.Payload.Exactness
import PeerDiscovery.Proofs.Packet.Regions

/-!
# Packets open as they were built

A draft with a payload becomes a packet that the reader of its kind opens as that payload:
unsigned, signed, or signed and sealed.  Of the primitives only single calls are assumed:
that the signer's key can be parsed and its signature verifies (`Vouches`), and that both
sides of a box agree (`AgreesWith`).
-/

namespace PeerDiscovery

namespace PrivateKey

/-- The public half can be parsed, and the signature of a text verifies. -/
structure Vouches (signer : PrivateKey) (text : Bytes) : Prop where
  isPoint : signer.publicKey.isPoint = true
  verifies : signer.publicKey.verifies text (signer.sign text) = true

/-- The owner agrees with whoever has a fresh secret. -/
def AgreesWith (recipient : PrivateKey) (secret : Block 32) : Prop :=
  X25519.agree recipient.agreement (X25519.publicKey secret) =
    X25519.agree secret recipient.publicKey.agreement

theorem decrypt_of_encrypt {recipient : PrivateKey} {fresh : SealingNonce} {text box : Bytes}
    (boxed : recipient.publicKey.encrypt fresh.secret fresh.nonce text = .ok box)
    (agrees : recipient.AgreesWith fresh.secret) : recipient.decrypt box = .ok text :=
  SealedBox.decrypt_of_encrypt boxed agrees

end PrivateKey

namespace Packet

/-- A signed packet was opened as one of a signer, seen at a source, at a time. -/
structure OpenedAs {Value : Type} (signed : Signed Value) (signer : PublicKey) (source : Address)
    (time : UInt64) (payload : Value) : Prop where
  key : signed.peer.key = .theirs signer
  address : signed.peer.address = source
  clock : signed.peer.clock = time
  globalTime : signed.globalTime = time
  payload : signed.payload = payload

theorem openedAs_signer {Value : Type} (packet : Packet) (key : PublicKey) (time : UInt64)
    (now : Instant) (payload : Value) :
    OpenedAs ⟨packet.signer key time now, time, payload⟩ key packet.source time payload where
  key := rfl
  address := rfl
  clock := Activity.clock_signer packet key time now
  globalTime := rfl
  payload := rfl

namespace Draft

def plain (service : ServiceId) (messageId : UInt8) (globalTime : UInt64) : Draft :=
  { service, messageId, globalTime }

def signedBy (draft : Draft) (signer : PrivateKey) : Draft :=
  { draft with signer := some signer }

def sealedFor (draft : Draft) (recipient : PublicKey) : Draft :=
  { draft with isSealed := true, recipient := some recipient }

variable {draft : Draft} {content bytes data : Bytes} {fresh : SealingNonce}

theorem text_parts {signer : PrivateKey} (signs : draft.signer = some signer) (content : Bytes) :
    (draft.parts signer content).text = draft.front ++ content := by
  simp only [parts, Parts.text, signedText, front, signs, frontOf, List.append_assoc]

theorem genuine_of_vouches {signer : PrivateKey} (signs : draft.signer = some signer)
    (vouched : signer.Vouches (draft.front ++ content)) :
    (draft.parts signer content).Genuine where
  length_front := length_frontOf _ _
  isPoint := vouched.isPoint
  verifies := by
    have text := text_parts signs content
    have verified := vouched.verifies
    rw [← text] at verified
    exact verified

theorem exists_of_build (built : draft.build fresh bytes = .ok data) :
    ∃ content, data = draft.frame content := by
  unfold build at built
  cases sealing : draft.sealedPayload fresh bytes with
  | error cause =>
    rw [sealing] at built
    cases built
  | ok content =>
    rw [sealing] at built
    cases built
    exact ⟨content, rfl⟩

theorem build_sealedFor {recipient : PublicKey} {box : Bytes}
    (boxed : recipient.encrypt fresh.secret fresh.nonce bytes = .ok box) :
    (draft.sealedFor recipient).build fresh bytes = .ok ((draft.sealedFor recipient).frame box) := by
  have standing : (draft.sealedFor recipient).sealedPayload fresh bytes = .ok box := by
    change orKey (recipient.encrypt fresh.secret fresh.nonce bytes) = .ok box
    rw [boxed]
    rfl
  rw [build, standing]
  rfl

section

variable {Value : Type} {format : Format Value} {payload : Value} {rest : Bytes}

theorem openSigned_frame {signer : PrivateKey} (signs : draft.signer = some signer)
    (vouched : signer.Vouches (draft.front ++ content))
    (decoded : format.decode content = .ok (payload, rest)) (source : Address) (now : Instant) :
    ∃ signed, (⟨source, draft.frame content⟩ : Packet).openSigned format now = .ok signed ∧
      OpenedAs signed signer.publicKey source draft.globalTime payload := by
  have genuine := genuine_of_vouches signs vouched
  have opened : (⟨source, draft.frame content⟩ : Packet).openSigned format now = .ok _ :=
    (openSigned_frame_iff signs rfl).2 ⟨genuine, payload, rest, decoded, rfl⟩
  exact ⟨_, opened, openedAs_signer _ _ _ _ _⟩

theorem openSealed_frame {signer recipient : PrivateKey} {text : Bytes}
    (signs : draft.signer = some signer) (vouched : signer.Vouches (draft.front ++ content))
    (unsealed : recipient.decrypt content = .ok text)
    (decoded : format.decode text = .ok (payload, rest)) (source : Address) (now : Instant) :
    ∃ signed, (⟨source, draft.frame content⟩ : Packet).openSealed format recipient now =
        .ok signed ∧
      OpenedAs signed signer.publicKey source draft.globalTime payload := by
  have genuine := genuine_of_vouches signs vouched
  have whole := frame_signed draft signs content
  have opened : (⟨source, draft.frame content⟩ : Packet).openSealed format recipient now =
      .ok _ :=
    openSealed_eq_ok_iff.2 ⟨_, text, payload, rest, genuine, whole, unsealed, decoded, rfl⟩
  exact ⟨_, opened, openedAs_signer _ _ _ _ _⟩

end

/-- What a packet tells of where it belongs, whatever is in it. -/
structure Addressed (draft : Draft) (packet : Packet) : Prop where
  messageId : packet.messageId? = some draft.messageId
  hasHeader : ∀ service, packet.hasHeader service = true ↔ service = draft.service
  complete : headerSize ≤ packet.data.length
  header : packet.data.take ServiceId.headerSize = draft.service.header

theorem addressed_of_build (built : draft.build fresh bytes = .ok data) (source : Address) :
    draft.Addressed ⟨source, data⟩ := by
  obtain ⟨content, rfl⟩ := exists_of_build built
  have carries : ∀ {service messageId}, _ ↔ _ := @carries_frame_iff
    ⟨source, draft.frame content⟩ draft content rfl
  obtain ⟨headed, numbered⟩ := carries.2 ⟨rfl, rfl⟩
  obtain ⟨rest, starts⟩ := draft.exists_frame_eq content
  refine ⟨numbered, fun service => ⟨fun found => ?_, ?_⟩, ?_, ?_⟩
  · exact (carries.1 ⟨found, numbered⟩).1.symm
  · rintro rfl
    exact headed
  · rw [starts, List.length_append, length_frontOf]
    exact Nat.le_add_right _ _
  · rw [starts, frontOf, List.append_assoc, List.take_left' draft.service.length_header]

/-- A draft of every kind becomes a packet that opens as what was drafted. -/
theorem opens_as_built (service : ServiceId) (messageId : UInt8) (time : UInt64)
    (source : Address) (signer recipient : PrivateKey) (fresh : SealingNonce)
    (payload : Payload) (now : Instant) (fits : payload.Fits) :
    (∃ data, (plain service messageId time).build fresh payload.encode = .ok data ∧
      (⟨source, data⟩ : Packet).openUnsigned payload.kind.format = .ok ⟨time, payload⟩) ∧
    (signer.Vouches (((plain service messageId time).signedBy signer).front ++ payload.encode) →
      ∃ data signed,
        ((plain service messageId time).signedBy signer).build fresh payload.encode = .ok data ∧
        (⟨source, data⟩ : Packet).openSigned payload.kind.format now = .ok signed ∧
        OpenedAs signed signer.publicKey source time payload) ∧
    (∀ box, recipient.publicKey.encrypt fresh.secret fresh.nonce payload.encode = .ok box →
      recipient.AgreesWith fresh.secret →
      signer.Vouches (((plain service messageId time).signedBy signer).front ++ box) →
      ∃ data signed,
        (((plain service messageId time).signedBy signer).sealedFor recipient.publicKey).build
          fresh payload.encode = .ok data ∧
        (⟨source, data⟩ : Packet).openSealed payload.kind.format recipient now = .ok signed ∧
        OpenedAs signed signer.publicKey source time payload) ∧
    ∀ (draft : Draft) (bytes data : Bytes), draft.build fresh bytes = .ok data →
      draft.Addressed ⟨source, data⟩ := by
  have decoded : payload.kind.format.decode payload.encode = .ok (payload, []) := by
    have read : Payload.decode payload.kind (payload.encode ++ []) = .ok (payload, []) :=
      Payload.decode_encode_append fits fun _ => rfl
    rwa [List.append_nil] at read
  refine ⟨?_, ?_, ?_, fun draft bytes data built => addressed_of_build built source⟩
  · have opened : (⟨source, (plain service messageId time).frame payload.encode⟩ :
        Packet).openUnsigned payload.kind.format =
          .ok ⟨(plain service messageId time).globalTime, payload⟩ :=
      openUnsigned_frame rfl rfl decoded
    exact ⟨_, build_plain _ fresh _ rfl, opened⟩
  · intro vouched
    obtain ⟨signed, opened, told⟩ := openSigned_frame rfl vouched decoded source now
    exact ⟨_, signed, build_plain _ fresh _ rfl, opened, told⟩
  · intro box boxed agrees vouched
    have unsealed := PrivateKey.decrypt_of_encrypt boxed agrees
    have signs : (((plain service messageId time).signedBy signer).sealedFor
        recipient.publicKey).signer = some signer := rfl
    obtain ⟨signed, opened, told⟩ := openSealed_frame signs vouched unsealed decoded source now
    exact ⟨_, signed, build_sealedFor boxed, opened, told⟩

def sampleRecipient : PrivateKey := .ofSecrets (Block.ofNatLE 32 2) (Block.ofNatLE 32 2)

def sampleFresh : SealingNonce := ⟨Block.ofNatLE 32 3, Block.ofNatLE 24 4⟩

def sampleDraft : Draft :=
  (plain ⟨Block.ofNatLE 20 0⟩ MembershipMessage.puncture.id 7).signedBy sampleSigner

def sampleBox : Bytes :=
  (sampleRecipient.publicKey.encrypt sampleFresh.secret sampleFresh.nonce
    samplePuncture.encode).toOption.getD []

theorem opens_as_built_sample :
    (∃ data signed, sampleDraft.build sampleFresh samplePuncture.encode = .ok data ∧
      (⟨.empty, data⟩ : Packet).openSigned PayloadKind.puncture.format 0 = .ok signed ∧
      OpenedAs signed sampleSigner.publicKey .empty 7 (.puncture samplePuncture)) ∧
    ∃ data signed,
      (sampleDraft.sealedFor sampleRecipient.publicKey).build sampleFresh samplePuncture.encode =
        .ok data ∧
      (⟨.empty, data⟩ : Packet).openSealed PayloadKind.puncture.format sampleRecipient 0 =
        .ok signed ∧
      OpenedAs signed sampleSigner.publicKey .empty 7 (.puncture samplePuncture) := by
  have boxed : sampleRecipient.publicKey.encrypt sampleFresh.secret sampleFresh.nonce
      samplePuncture.encode = .ok sampleBox := by
    refine SealedBox.encrypt_eq_ok_iff.2 ⟨by decide +kernel, ?_⟩
    decide +kernel
  have agrees : sampleRecipient.AgreesWith sampleFresh.secret := by
    unfold PrivateKey.AgreesWith
    decide +kernel
  have text : (sampleDraft.parts sampleSigner samplePuncture.encode).text =
      sampleDraft.front ++ samplePuncture.encode :=
    text_parts rfl _
  have signs : sampleSigner.Vouches (sampleDraft.front ++ samplePuncture.encode) := by
    rw [← text, text_eq_append]
    exact ⟨isPoint_sampleSigner, verifies_sampleText⟩
  have signsBox : sampleSigner.Vouches (sampleDraft.front ++ sampleBox) :=
    ⟨isPoint_sampleSigner, by decide +kernel⟩
  have opens := opens_as_built ⟨Block.ofNatLE 20 0⟩ MembershipMessage.puncture.id 7 .empty
    sampleSigner sampleRecipient sampleFresh (.puncture samplePuncture) 0 trivial
  exact ⟨opens.2.1 signs, opens.2.2.1 sampleBox boxed agrees signsBox⟩

end Draft

end Packet

end PeerDiscovery
