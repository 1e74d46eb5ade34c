import PeerDiscovery.Packet.Basic

/-!
# Building packets

A draft says which overlay and message a packet is for, at which global time,
who signs it, and whether and for whom its payload is sealed.
-/

namespace PeerDiscovery

structure SealingNonce where
  secret : Block 32
  nonce : Block 24

namespace Packet

structure Draft where
  service : ServiceId
  messageId : UInt8
  globalTime : UInt64
  signer : Option PrivateKey := none
  isSealed : Bool := false
  recipient : Option PublicKey := none

namespace Draft

def front (draft : Draft) : Bytes :=
  let key := match draft.signer with
    | some signer => KeyField.encode signer.publicKey.encode
    | none => []
  draft.service.header ++ [draft.messageId] ++ key ++ GlobalTime.encode draft.globalTime

def sealedPayload (draft : Draft) (fresh : SealingNonce) (payload : Bytes) :
    Except PacketError Bytes :=
  if draft.isSealed then
    match draft.recipient with
    | none => .error .missingRecipient
    | some recipient => orKey (recipient.encrypt fresh.secret fresh.nonce payload)
  else .ok payload

def frame (draft : Draft) (content : Bytes) : Bytes :=
  let unsigned := draft.front ++ content
  match draft.signer with
  | some signer => unsigned ++ (signer.sign unsigned).bytes
  | none => unsigned

def build (draft : Draft) (fresh : SealingNonce) (payload : Bytes) :
    Except PacketError Bytes :=
  (draft.sealedPayload fresh payload).map draft.frame

theorem build_plain (draft : Draft) (fresh : SealingNonce) (payload : Bytes)
    (plain : draft.isSealed = false) :
    draft.build fresh payload = .ok (draft.frame payload) := by
  simp [build, sealedPayload, plain, Except.map]

end Draft

end Packet

end PeerDiscovery
