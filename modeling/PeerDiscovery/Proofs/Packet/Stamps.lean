import PeerDiscovery.Proofs.Packet.Regions

/-!
# Times and identifiers in the bytes of packets

The global time of a packet stands behind the key of its signer, or at the front of the body if
nobody signs it; the payload follows.  Membership messages carry an identifier in their payload,
and only puncture requests are not signed.  Whatever was drafted is found there again, whether or
not the signature verifies.
-/

namespace PeerDiscovery

namespace MembershipMessage

def isSigned : MembershipMessage → Bool
  | punctureRequest => false
  | _ => true

def identifier? (payload : Bytes) : MembershipMessage → Option UInt16
  | introductionRequest => (IntroductionRequest.decode payload).toOption.map (·.1.identifier)
  | introductionResponse => (IntroductionResponse.decode payload).toOption.map (·.1.identifier)
  | puncture => (Puncture.decode payload).toOption.map (·.1.identifier)
  | punctureRequest => (Puncture.decode payload).toOption.map (·.1.identifier)

theorem identifier?_request (request : IntroductionRequest) :
    introductionRequest.identifier? request.encode = some request.identifier := by
  rw [identifier?, IntroductionRequest.decode_encode]
  rfl

theorem identifier?_response (response : IntroductionResponse) :
    introductionResponse.identifier? response.encode = some response.identifier := by
  rw [identifier?, IntroductionResponse.decode_encode]
  rfl

theorem identifier?_puncture (content : Puncture) :
    puncture.identifier? content.encode = some content.identifier := by
  have decoded := content.decode_encode_append []
  rw [List.append_nil] at decoded
  rw [identifier?, decoded]
  rfl

theorem identifier?_punctureRequest (walker : Puncture) :
    punctureRequest.identifier? walker.encode = some walker.identifier :=
  identifier?_puncture walker

end MembershipMessage

namespace Packet

/-- What a membership message tells besides addresses. -/
structure Stamp where
  message : MembershipMessage
  time : UInt64
  identifier : UInt16
deriving DecidableEq

section

variable (packet : Packet)

def time? (isSigned : Bool) : Option UInt64 :=
  (GlobalTime.decode
    (packet.data.drop (if isSigned then packet.keyEnd else headerSize))).toOption.map (·.1)

def payload (isSigned : Bool) : Bytes :=
  if isSigned then packet.content else packet.data.drop (headerSize + 8)

def message? : Option MembershipMessage := packet.messageId?.bind MembershipMessage.ofId?

def stamp? : Option Stamp := do
  let message ← packet.message?
  let time ← packet.time? message.isSigned
  let identifier ← message.identifier? (packet.payload message.isSigned)
  return ⟨message, time, identifier⟩

end

variable {packet : Packet}

theorem stamp?_eq {message : MembershipMessage} {time : UInt64} {identifier : UInt16}
    (numbered : packet.messageId? = some message.id)
    (timed : packet.time? message.isSigned = some time)
    (identified : message.identifier? (packet.payload message.isSigned) = some identifier) :
    packet.stamp? = some ⟨message, time, identifier⟩ := by
  have named : packet.message? = some message := by
    rw [message?, numbered, Option.bind_some, MembershipMessage.ofId?_id]
  simp only [stamp?, named, Option.bind_eq_bind, Option.bind_some, timed, identified]
  rfl

section

variable {parts : Parts} (whole : packet.data = parts.bytes)
  (complete : parts.front.length = headerSize)

include whole complete

theorem time?_of_parts : packet.time? true = some parts.time := by
  have behind : packet.data.drop packet.keyEnd =
      GlobalTime.encode parts.time ++ (parts.content ++ parts.signature.bytes) := by
    have before : (parts.front ++ KeyField.encode parts.key.encode).length = packet.keyEnd := by
      rw [keyEnd_eq whole complete, List.length_append, complete, KeyField.length_encode,
        PublicKey.length_encode, Nat.add_assoc]
    rw [whole, parts.bytes_eq, Parts.behindFront, ← List.append_assoc, List.drop_left' before]
  rw [time?, if_pos rfl, behind, GlobalTime.decode_eq_ok_iff.2 rfl]
  rfl

theorem payload_of_parts : packet.payload true = parts.content :=
  content_eq whole complete

end

section

variable {front content : Bytes} {time : UInt64} (complete : front.length = headerSize)
  (whole : packet.data = front ++ GlobalTime.encode time ++ content)

include complete whole

theorem time?_of_plain : packet.time? false = some time := by
  rw [time?, if_neg Bool.false_ne_true, whole, List.append_assoc, List.drop_left' complete,
    GlobalTime.decode_eq_ok_iff.2 rfl]
  rfl

theorem payload_of_plain : packet.payload false = content := by
  have before : (front ++ GlobalTime.encode time).length = headerSize + 8 := by
    rw [List.length_append, complete, GlobalTime.length_encode]
  rw [payload, if_neg Bool.false_ne_true, whole, List.drop_left' before]

end

namespace Draft

variable {draft : Draft} {content : Bytes}

theorem time?_frame (whole : packet.data = draft.frame content) :
    packet.time? draft.signer.isSome = some draft.globalTime := by
  cases signs : draft.signer with
  | none =>
      rw [frame_unsigned draft signs] at whole
      exact time?_of_plain (length_frontOf _ _) whole
  | some signer =>
      rw [frame_signed draft signs] at whole
      exact time?_of_parts whole (length_frontOf _ _)

theorem payload_frame (whole : packet.data = draft.frame content) :
    packet.payload draft.signer.isSome = content := by
  cases signs : draft.signer with
  | none =>
      rw [frame_unsigned draft signs] at whole
      exact payload_of_plain (length_frontOf _ _) whole
  | some signer =>
      rw [frame_signed draft signs] at whole
      exact payload_of_parts whole (length_frontOf _ _)

/-- A drafted membership message has the time of the draft and the identifier of its payload. -/
theorem stamp?_frame (whole : packet.data = draft.frame content) {message : MembershipMessage}
    {identifier : UInt16} (numbered : draft.messageId = message.id)
    (signed : draft.signer.isSome = message.isSigned)
    (identified : message.identifier? content = some identifier) :
    packet.stamp? = some ⟨message, draft.globalTime, identifier⟩ := by
  refine stamp?_eq ?_ ?_ ?_
  · rw [← numbered]
    exact ((carries_frame_iff whole).2 ⟨rfl, rfl⟩).2
  · rw [← signed]
    exact time?_frame whole
  · rw [← signed, payload_frame whole]
    exact identified

end Draft

theorem stamp?_of_openSigned {now : Instant} {signed : Signed IntroductionRequest}
    (numbered : packet.messageId? = some MembershipMessage.introductionRequest.id)
    (opened : packet.openSigned IntroductionRequest.format now = .ok signed) :
    packet.stamp? =
      some ⟨.introductionRequest, signed.globalTime, signed.payload.identifier⟩ := by
  obtain ⟨parts, request, rest, genuine, whole, decoded, rfl⟩ := openSigned_eq_ok_iff.1 opened
  refine stamp?_eq numbered (time?_of_parts whole genuine.length_front) ?_
  have read : IntroductionRequest.decode parts.content = .ok (request, rest) := decoded
  simp only [MembershipMessage.isSigned, payload_of_parts whole genuine.length_front,
    MembershipMessage.identifier?, read]
  rfl

theorem stamp?_of_openUnsigned {unsigned : Unsigned Puncture}
    (numbered : packet.messageId? = some MembershipMessage.punctureRequest.id)
    (opened : packet.openUnsigned Puncture.format = .ok unsigned) :
    packet.stamp? =
      some ⟨.punctureRequest, unsigned.globalTime, unsigned.payload.identifier⟩ := by
  obtain ⟨front, content, rest, complete, whole, decoded⟩ := openUnsigned_eq_ok_iff.1 opened
  refine stamp?_eq numbered (time?_of_plain complete whole) ?_
  have read : Puncture.decode content = .ok (unsigned.payload, rest) := decoded
  simp only [MembershipMessage.isSigned, payload_of_plain complete whole,
    MembershipMessage.identifier?, read]
  rfl

end Packet

end PeerDiscovery
