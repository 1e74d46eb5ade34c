import PeerDiscovery.Payload.Basic
import PeerDiscovery.Peer

/-!
# Packets

A packet is the header of its overlay, a message identifier, in signed packets
the sender's public key with its length, the sender's global time, the payload,
and in signed packets a signature over every byte before it.  The payload may
be sealed for one recipient.
-/

namespace PeerDiscovery

@[ext]
structure Packet where
  source : Address
  data : Bytes
deriving DecidableEq

inductive MembershipMessage where
  | introductionResponse
  | introductionRequest
  | puncture
  | punctureRequest
deriving DecidableEq

namespace MembershipMessage

def id : MembershipMessage → UInt8
  | introductionResponse => 245
  | introductionRequest => 246
  | puncture => 249
  | punctureRequest => 250

def ofId? (id : UInt8) : Option MembershipMessage :=
  if id = 245 then some introductionResponse
  else if id = 246 then some introductionRequest
  else if id = 249 then some puncture
  else if id = 250 then some punctureRequest
  else none

theorem ofId?_id (message : MembershipMessage) : ofId? message.id = some message := by
  cases message <;> rfl

end MembershipMessage

/-- A signed packet that was accepted. -/
structure Signed (Value : Type) where
  peer : Peer
  globalTime : UInt64
  payload : Value

structure Unsigned (Value : Type) where
  globalTime : UInt64
  payload : Value

namespace Packet

def headerSize : Nat := ServiceId.headerSize + 1

def signatureSize : Nat := 64

def hasHeader (packet : Packet) (service : ServiceId) : Bool :=
  headerSize ≤ packet.data.length &&
    packet.data.take ServiceId.headerSize == service.header

def messageId? (packet : Packet) : Option UInt8 :=
  packet.data[ServiceId.headerSize]?

def body (packet : Packet) : Except PacketError Bytes :=
  if packet.data.length < headerSize then
    .error (.tooShort headerSize packet.data.length)
  else .ok (packet.data.drop headerSize)

def orKey {Value : Type} : Except KeyError Value → Except PacketError Value
  | .ok value => .ok value
  | .error cause => .error (.key cause)

/-- The signer and everything between the signer's key and the signature, if
the signature is the signer's. -/
def signedBody (packet : Packet) : Except PacketError (PublicKey × Bytes) := do
  let body ← packet.body
  let (keyBytes, rest) ← KeyField.decode body
  let key ← orKey (PublicKey.decode keyBytes)
  let start := packet.data.length - rest.length
  if rest.length < signatureSize then
    throw (.tooShort (start + signatureSize) packet.data.length)
  let signedLength := packet.data.length - signatureSize
  orKey (key.verify (packet.data.take signedLength) (packet.data.drop signedLength))
  return (key, rest.take (rest.length - signatureSize))

def signer (packet : Packet) (key : PublicKey) (time : UInt64) (now : Instant) : Peer :=
  (Peer.seenAt (.theirs key) packet.source false now).updateClock time now

def openUnsigned {Value : Type} (format : Format Value) (packet : Packet) :
    Except PacketError (Unsigned Value) := do
  let body ← packet.body
  let (time, rest) ← GlobalTime.decode body
  let (payload, _) ← format.decode rest
  return ⟨time, payload⟩

def openSigned {Value : Type} (format : Format Value) (packet : Packet) (now : Instant) :
    Except PacketError (Signed Value) := do
  let (key, body) ← packet.signedBody
  let (time, rest) ← GlobalTime.decode body
  let (payload, _) ← format.decode rest
  return ⟨packet.signer key time now, time, payload⟩

/-- The payload of a signed packet that was sealed for the owner of a key. -/
def openSealed {Value : Type} (format : Format Value) (recipient : PrivateKey)
    (packet : Packet) (now : Instant) : Except PacketError (Signed Value) := do
  let (key, body) ← packet.signedBody
  let (time, box) ← GlobalTime.decode body
  let text ← orKey (recipient.decrypt box)
  let (payload, _) ← format.decode text
  return ⟨packet.signer key time now, time, payload⟩

end Packet

end PeerDiscovery
