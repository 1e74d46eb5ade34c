import PeerDiscovery.Packet.Build
import PeerDiscovery.Proofs.Payload.RoundTrip

/-!
# The grammar of packets

A signed packet is a front of overlay header and message identifier, the
signer's key with its length, the global time, the payload and a signature over
all of that.  The bytes determine the parts, opening succeeds exactly on packets
of this form, and what a draft writes has this form.
-/

namespace PeerDiscovery

namespace Block

theorem bytes_slice {bytes : Bytes} {start width : Nat} (inside : start + width ≤ bytes.length) :
    (slice bytes start width).bytes = (bytes.drop start).take width := by
  have full : ((bytes.drop start).take width).length = width :=
    List.length_take_of_le (by rw [List.length_drop]; omega)
  simp only [slice, full, Nat.sub_self, Bytes.filled, List.replicate_zero, List.append_nil]

end Block

namespace Key

theorem halves_eq_ok_iff {marker bytes : Bytes} {first second : Block 32}
    (markerLength : marker.length = markerSize) :
    halves marker bytes = .ok (first, second) ↔
      bytes = marker ++ first.bytes ++ second.bytes := by
  unfold halves
  constructor
  · intro read
    split at read
    · rename_i long
      split at read
      · rename_i marked
        simp only [Except.ok.injEq, Prod.mk.injEq] at read
        obtain ⟨rfl, rfl⟩ := read
        have long : bytes.length = 74 := long
        rw [Block.bytes_slice (by rw [long]; decide), Block.bytes_slice (by rw [long]; decide),
          ← marked]
        have rest : (bytes.drop (markerSize + 32)).take 32 = bytes.drop (markerSize + 32) :=
          List.take_of_length_le (by rw [List.length_drop, long]; decide)
        rw [rest, ← List.drop_drop, List.append_assoc, List.take_append_drop,
          List.take_append_drop]
      · cases read
    · cases read
  · rintro rfl
    have size_eq : (marker ++ first.bytes ++ second.bytes).length = size := by
      simp [markerLength, first.length_bytes, second.length_bytes, markerSize, size]
    have marked : (marker ++ first.bytes ++ second.bytes).take markerSize = marker := by
      rw [List.append_assoc, ← markerLength, List.take_left]
    have firstHalf := Block.slice_append marker first second.bytes
    have secondHalf := Block.slice_append (marker ++ first.bytes) second []
    rw [List.append_nil, List.length_append, first.length_bytes, markerLength] at secondHalf
    rw [markerLength] at firstHalf
    rw [if_pos size_eq, if_pos marked, firstHalf, secondHalf]

end Key

namespace PublicKey

/-- A key is read from its own serialized form only. -/
theorem decode_eq_ok_iff {bytes : Bytes} {key : PublicKey} :
    decode bytes = .ok key ↔ bytes = key.encode ∧ key.isPoint = true := by
  rw [decode, bind_eq_ok_iff]
  have markerLength : marker.length = Key.markerSize := by decide
  constructor
  · rintro ⟨⟨agreement, verifying⟩, cut, checked⟩
    dsimp only at checked
    split at checked
    · rename_i point
      cases checked
      exact ⟨(Key.halves_eq_ok_iff markerLength).1 cut, point⟩
    · cases checked
  · rintro ⟨written, point⟩
    refine ⟨(key.agreement, key.verifying), (Key.halves_eq_ok_iff markerLength).2 written, ?_⟩
    exact if_pos point

theorem encode_injective {left right : PublicKey} (same : left.encode = right.encode) :
    left = right := by
  have markerLength : marker.length = Key.markerSize := by decide
  have readLeft := (Key.halves_eq_ok_iff markerLength).2
    (rfl : left.encode = marker ++ left.agreement.bytes ++ left.verifying.bytes)
  have readRight := (Key.halves_eq_ok_iff markerLength).2
    (rfl : right.encode = marker ++ right.agreement.bytes ++ right.verifying.bytes)
  rw [same, readRight] at readLeft
  simp only [Except.ok.injEq, Prod.mk.injEq] at readLeft
  exact PublicKey.ext readLeft.1.symm readLeft.2.symm

/-- A checked signature is a block of 64 bytes that the key verifies. -/
theorem verify_eq_ok_iff {key : PublicKey} {message bytes : Bytes} :
    key.verify message bytes = .ok () ↔
      ∃ signature : Block 64, bytes = signature.bytes ∧ key.verifies message signature = true := by
  unfold verify
  constructor
  · intro checked
    split at checked
    · cases checked
    · rename_i signature read
      split at checked
      · rename_i verified
        exact ⟨signature, Block.ofBytes?_eq_some_iff.1 read, verified⟩
      · cases checked
  · rintro ⟨signature, rfl, verified⟩
    simp [verified]

end PublicKey

namespace Packet

/-- What a signature covers when the payload and its time stand in a packet. -/
def signedText (front : Bytes) (key : PublicKey) (time : UInt64) (content : Bytes) : Bytes :=
  front ++ KeyField.encode key.encode ++ GlobalTime.encode time ++ content

structure Parts where
  front : Bytes
  key : PublicKey
  time : UInt64
  content : Bytes
  signature : Block 64

namespace Parts

def text (parts : Parts) : Bytes :=
  signedText parts.front parts.key parts.time parts.content

def bytes (parts : Parts) : Bytes := parts.text ++ parts.signature.bytes

def behindFront (parts : Parts) : Bytes :=
  KeyField.encode parts.key.encode ++ (GlobalTime.encode parts.time ++
    (parts.content ++ parts.signature.bytes))

theorem bytes_eq (parts : Parts) : parts.bytes = parts.front ++ parts.behindFront := by
  simp only [bytes, text, signedText, behindFront, List.append_assoc]

/-- The front is complete, the key usable and the signature the key's. -/
structure Genuine (parts : Parts) : Prop where
  length_front : parts.front.length = headerSize
  isPoint : parts.key.isPoint = true
  verifies : parts.key.verifies parts.text parts.signature = true

theorem bytes_injective {left right : Parts} (sameBytes : left.bytes = right.bytes)
    (leftFront : left.front.length = headerSize) (rightFront : right.front.length = headerSize) :
    left = right := by
  obtain ⟨front, key, time, content, signature⟩ := left
  obtain ⟨front', key', time', content', signature'⟩ := right
  simp only [bytes, text, signedText, List.append_assoc] at sameBytes leftFront rightFront
  obtain ⟨sameFront, behindFront⟩ := List.append_inj sameBytes (leftFront.trans rightFront.symm)
  obtain ⟨sameKey, behindKey⟩ := List.append_inj behindFront (by simp)
  obtain ⟨sameTime, behindTime⟩ := List.append_inj behindKey (by simp)
  obtain ⟨sameContent, sameSignature⟩ := List.append_inj' behindTime
    (signature.length_bytes.trans signature'.length_bytes.symm)
  have keysRead : key.encode = key'.encode := by
    rw [KeyField.encode, KeyField.encode] at sameKey
    exact (List.append_inj sameKey (by simp)).2
  have timesRead : (time, ([] : Bytes)) = (time', []) := by
    have readBack := GlobalTime.decode_eq_ok_iff.2 (List.append_nil (GlobalTime.encode time)).symm
    rw [sameTime, GlobalTime.decode_eq_ok_iff.2 (List.append_nil _).symm] at readBack
    exact (Except.ok.inj readBack).symm
  cases sameFront
  cases PublicKey.encode_injective keysRead
  cases timesRead
  cases sameContent
  cases Block.ext sameSignature
  rfl

end Parts

theorem body_eq_ok_iff {packet : Packet} {body : Bytes} :
    packet.body = .ok body ↔
      headerSize ≤ packet.data.length ∧ packet.data.drop headerSize = body := by
  unfold Packet.body
  split
  · rename_i short
    simp [Nat.not_le.2 short]
  · rename_i long
    simp [Nat.not_lt.1 long]

theorem orKey_eq_ok_iff {Value : Type} {read : Except KeyError Value} {value : Value} :
    orKey read = .ok value ↔ read = .ok value := by
  cases read <;> simp [orKey]

private theorem take_sub_length (front : Bytes) {rest : Bytes} {count : Nat}
    (enough : count ≤ rest.length) :
    (front ++ rest).take ((front ++ rest).length - count) =
      front ++ rest.take (rest.length - count) := by
  have place : (front ++ rest).length - count = front.length + (rest.length - count) := by
    rw [List.length_append]; omega
  rw [place, List.take_length_add_append]

private theorem drop_sub_length (front : Bytes) {rest : Bytes} {count : Nat}
    (enough : count ≤ rest.length) :
    (front ++ rest).drop ((front ++ rest).length - count) = rest.drop (rest.length - count) := by
  have place : (front ++ rest).length - count = front.length + (rest.length - count) := by
    rw [List.length_append]; omega
  rw [place, List.drop_length_add_append]

/-- Everything between key and signature is handed on exactly for packets with a
usable key and that key's signature. -/
theorem signedBody_eq_ok_iff {packet : Packet} {key : PublicKey} {content : Bytes} :
    packet.signedBody = .ok (key, content) ↔
      key.isPoint = true ∧ ∃ (front : Bytes) (signature : Block 64),
        front.length = headerSize ∧
        packet.data = front ++ KeyField.encode key.encode ++ content ++ signature.bytes ∧
        key.verifies (front ++ KeyField.encode key.encode ++ content) signature = true := by
  rw [signedBody, bind_eq_ok_iff]
  constructor
  · rintro ⟨body, bodyRead, following⟩
    obtain ⟨⟨keyBytes, rest⟩, fieldRead, following⟩ := bind_eq_ok_iff.1 following
    obtain ⟨read, keyRead, following⟩ := bind_eq_ok_iff.1 following
    dsimp only at following
    split at following
    · cases following
    rename_i enough
    obtain ⟨⟨⟩, checked, ⟨⟩⟩ := bind_eq_ok_iff.1 following
    obtain ⟨long, rfl⟩ := body_eq_ok_iff.1 bodyRead
    obtain ⟨behind, -⟩ := KeyField.decode_eq_ok_iff.1 fieldRead
    obtain ⟨rfl, point⟩ := PublicKey.decode_eq_ok_iff.1 (orKey_eq_ok_iff.1 keyRead)
    obtain ⟨signature, tail, verified⟩ := PublicKey.verify_eq_ok_iff.1 (orKey_eq_ok_iff.1 checked)
    have whole : packet.data =
        packet.data.take headerSize ++ KeyField.encode key.encode ++ rest := by
      rw [List.append_assoc, ← behind, List.take_append_drop]
    have signed := take_sub_length (packet.data.take headerSize ++ KeyField.encode key.encode)
      (Nat.not_lt.1 enough)
    rw [← whole] at signed
    refine ⟨point, packet.data.take headerSize, signature, List.length_take_of_le long, ?_, ?_⟩
    · rw [← signed, ← tail, List.take_append_drop]
    · rw [← signed]
      exact verified
  · rintro ⟨point, front, signature, frontLength, whole, verified⟩
    have bodyRead : packet.body =
        .ok (KeyField.encode key.encode ++ (content ++ signature.bytes)) := by
      rw [body_eq_ok_iff, whole]
      simp only [List.append_assoc]
      exact ⟨by simp [frontLength], by rw [← frontLength, List.drop_left]⟩
    have fieldRead : KeyField.decode (KeyField.encode key.encode ++ (content ++ signature.bytes)) =
        .ok (key.encode, content ++ signature.bytes) :=
      KeyField.decode_eq_ok_iff.2 ⟨rfl, by rw [PublicKey.length_encode]; decide⟩
    have keyRead : orKey (PublicKey.decode key.encode) = .ok key :=
      orKey_eq_ok_iff.2 (PublicKey.decode_eq_ok_iff.2 ⟨rfl, point⟩)
    have enough : signatureSize ≤ (content ++ signature.bytes).length := by
      rw [List.length_append, signature.length_bytes]
      exact Nat.le_add_left _ _
    have contentLength : (content ++ signature.bytes).length - signatureSize = content.length := by
      rw [List.length_append, signature.length_bytes]
      exact Nat.add_sub_cancel _ _
    have signed := take_sub_length (front ++ KeyField.encode key.encode) enough
    have ending := drop_sub_length (front ++ KeyField.encode key.encode) enough
    rw [contentLength, List.take_left, ← List.append_assoc, ← whole] at signed
    rw [contentLength, List.drop_left, ← List.append_assoc, ← whole] at ending
    have checked : orKey (key.verify (packet.data.take (packet.data.length - signatureSize))
        (packet.data.drop (packet.data.length - signatureSize))) = .ok () := by
      rw [signed, ending, orKey_eq_ok_iff, PublicKey.verify_eq_ok_iff]
      exact ⟨signature, rfl, verified⟩
    refine ⟨_, bodyRead, bind_eq_ok_iff.2 ⟨_, fieldRead, bind_eq_ok_iff.2 ⟨key, keyRead, ?_⟩⟩⟩
    dsimp only
    rw [if_neg (Nat.not_lt.2 enough), bind_eq_ok_iff]
    refine ⟨(), checked, ?_⟩
    rw [contentLength, List.take_left]
    rfl

/-- A signed packet opens exactly when it has the form of one, its parts are
genuine and the payload has the format. -/
theorem openSigned_eq_ok_iff {Value : Type} {format : Format Value} {packet : Packet}
    {now : Instant} {signed : Signed Value} :
    packet.openSigned format now = .ok signed ↔
      ∃ (parts : Parts) (payload : Value) (rest : Bytes),
        parts.Genuine ∧ packet.data = parts.bytes ∧
        format.decode parts.content = .ok (payload, rest) ∧
        signed = ⟨packet.signer parts.key parts.time now, parts.time, payload⟩ := by
  rw [openSigned, bind_eq_ok_iff]
  constructor
  · rintro ⟨⟨key, body⟩, bodyRead, following⟩
    obtain ⟨⟨time, content⟩, timeRead, following⟩ := bind_eq_ok_iff.1 following
    obtain ⟨⟨payload, rest⟩, payloadRead, ⟨⟩⟩ := bind_eq_ok_iff.1 following
    obtain ⟨point, front, signature, frontLength, whole, verified⟩ :=
      signedBody_eq_ok_iff.1 bodyRead
    cases GlobalTime.decode_eq_ok_iff.1 timeRead
    rw [← List.append_assoc] at verified whole
    exact ⟨⟨front, key, time, content, signature⟩, payload, rest,
      ⟨frontLength, point, verified⟩, whole, payloadRead, rfl⟩
  · rintro ⟨⟨front, key, time, content, signature⟩, payload, rest, genuine, whole, payloadRead,
      rfl⟩
    have bodyRead : packet.signedBody = .ok (key, GlobalTime.encode time ++ content) := by
      refine signedBody_eq_ok_iff.2
        ⟨genuine.isPoint, front, signature, genuine.length_front, ?_, ?_⟩
      · rw [← List.append_assoc]
        exact whole
      · rw [← List.append_assoc]
        exact genuine.verifies
    exact ⟨_, bodyRead, bind_eq_ok_iff.2 ⟨_, GlobalTime.decode_eq_ok_iff.2 rfl,
      bind_eq_ok_iff.2 ⟨_, payloadRead, rfl⟩⟩⟩

/-- A sealed packet is a signed one whose content is a box. -/
theorem openSealed_eq {Value : Type} (format : Format Value) (recipient : PrivateKey)
    (packet : Packet) (now : Instant) :
    packet.openSealed format recipient now = do
      let signed ← packet.openSigned Format.raw now
      let text ← orKey (recipient.decrypt signed.payload)
      let (payload, _) ← format.decode text
      return ⟨signed.peer, signed.globalTime, payload⟩ := by
  unfold openSealed openSigned
  cases packet.signedBody with
  | error cause => rfl
  | ok body =>
    cases timed : GlobalTime.decode body.2 with
    | error cause => simp [bind, Except.bind, timed]
    | ok content => simp [bind, Except.bind, timed, Format.raw, pure, Except.pure]

/-- A sealed packet opens exactly when it has the form of a signed one, its parts are
genuine, the recipient opens the box, and the text in it has the format. -/
theorem openSealed_eq_ok_iff {Value : Type} {format : Format Value} {recipient : PrivateKey}
    {packet : Packet} {now : Instant} {signed : Signed Value} :
    packet.openSealed format recipient now = .ok signed ↔
      ∃ (parts : Parts) (text : Bytes) (payload : Value) (rest : Bytes),
        parts.Genuine ∧ packet.data = parts.bytes ∧
        recipient.decrypt parts.content = .ok text ∧
        format.decode text = .ok (payload, rest) ∧
        signed = ⟨packet.signer parts.key parts.time now, parts.time, payload⟩ := by
  rw [openSealed_eq, bind_eq_ok_iff]
  constructor
  · rintro ⟨outer, opened, following⟩
    obtain ⟨text, unsealed, following⟩ := bind_eq_ok_iff.1 following
    obtain ⟨⟨payload, rest⟩, payloadRead, ⟨⟩⟩ := bind_eq_ok_iff.1 following
    obtain ⟨parts, _, _, genuine, whole, ⟨⟩, rfl⟩ := openSigned_eq_ok_iff.1 opened
    exact ⟨parts, text, payload, rest, genuine, whole, orKey_eq_ok_iff.1 unsealed, payloadRead,
      rfl⟩
  · rintro ⟨parts, text, payload, rest, genuine, whole, unsealed, payloadRead, rfl⟩
    refine ⟨_, openSigned_eq_ok_iff.2 ⟨parts, parts.content, [], genuine, whole, rfl, rfl⟩, ?_⟩
    exact bind_eq_ok_iff.2 ⟨text, orKey_eq_ok_iff.2 unsealed,
      bind_eq_ok_iff.2 ⟨_, payloadRead, rfl⟩⟩

/-- A packet without signature opens exactly when time and payload follow its
front. -/
theorem openUnsigned_eq_ok_iff {Value : Type} {format : Format Value} {packet : Packet}
    {unsigned : Unsigned Value} :
    packet.openUnsigned format = .ok unsigned ↔
      ∃ (front content rest : Bytes), front.length = headerSize ∧
        packet.data = front ++ GlobalTime.encode unsigned.globalTime ++ content ∧
        format.decode content = .ok (unsigned.payload, rest) := by
  rw [openUnsigned, bind_eq_ok_iff]
  constructor
  · rintro ⟨body, bodyRead, following⟩
    obtain ⟨⟨time, content⟩, timeRead, following⟩ := bind_eq_ok_iff.1 following
    obtain ⟨⟨payload, rest⟩, payloadRead, ⟨⟩⟩ := bind_eq_ok_iff.1 following
    obtain ⟨long, behind⟩ := body_eq_ok_iff.1 bodyRead
    rw [GlobalTime.decode_eq_ok_iff.1 timeRead] at behind
    refine ⟨packet.data.take headerSize, content, rest, List.length_take_of_le long, ?_,
      payloadRead⟩
    rw [List.append_assoc, ← behind, List.take_append_drop]
  · rintro ⟨front, content, rest, frontLength, whole, payloadRead⟩
    have bodyRead : packet.body = .ok (GlobalTime.encode unsigned.globalTime ++ content) := by
      rw [body_eq_ok_iff, whole, List.append_assoc]
      exact ⟨by simp [frontLength], by rw [← frontLength, List.drop_left]⟩
    exact ⟨_, bodyRead, bind_eq_ok_iff.2 ⟨_, GlobalTime.decode_eq_ok_iff.2 rfl,
      bind_eq_ok_iff.2 ⟨_, payloadRead, rfl⟩⟩⟩

/-- The front of the packets of an overlay with one message identifier. -/
def frontOf (service : ServiceId) (messageId : UInt8) : Bytes := service.header ++ [messageId]

@[simp]
theorem length_frontOf (service : ServiceId) (messageId : UInt8) :
    (frontOf service messageId).length = headerSize := by
  simp [frontOf, headerSize]

/-- A packet belongs to an overlay and has a message identifier exactly when it
starts with the front of both. -/
theorem hasHeader_and_messageId?_iff {packet : Packet} {service : ServiceId}
    {messageId : UInt8} :
    packet.hasHeader service = true ∧ packet.messageId? = some messageId ↔
      ∃ rest, packet.data = frontOf service messageId ++ rest := by
  unfold hasHeader messageId? frontOf
  constructor
  · rintro ⟨headed, numbered⟩
    simp only [Bool.and_eq_true, decide_eq_true_eq, beq_iff_eq] at headed
    obtain ⟨inside, rfl⟩ := List.getElem?_eq_some_iff.1 numbered
    refine ⟨packet.data.drop headerSize, ?_⟩
    rw [← headed.2, List.take_append_getElem]
    exact (List.take_append_drop headerSize packet.data).symm
  · rintro ⟨rest, whole⟩
    have headerLength := service.length_header
    have headed : packet.data.take ServiceId.headerSize = service.header := by
      rw [whole, List.append_assoc, ← headerLength, List.take_left]
    have numbered : packet.data[ServiceId.headerSize]? = some messageId := by
      rw [whole, List.append_assoc, List.getElem?_append_right (Nat.le_of_eq headerLength),
        headerLength, Nat.sub_self]
      rfl
    have inside : headerSize ≤ packet.data.length :=
      (List.getElem?_eq_some_iff.1 numbered).1
    simp [headed, numbered, inside]

theorem frontOf_injective {service otherService : ServiceId} {messageId otherId : UInt8}
    (same : frontOf service messageId = frontOf otherService otherId) :
    service = otherService ∧ messageId = otherId := by
  obtain ⟨sameHeader, sameId⟩ := List.append_inj same (by simp)
  exact ⟨ServiceId.header_injective sameHeader, by simpa using sameId⟩

/-- Whoever reads a signed packet under some front finds that very front. -/
theorem Parts.front_eq {parts : Parts} {service : ServiceId} {messageId : UInt8}
    {rest : Bytes} (complete : parts.front.length = headerSize)
    (whole : parts.bytes = frontOf service messageId ++ rest) :
    parts.front = frontOf service messageId := by
  rw [parts.bytes_eq] at whole
  exact (List.append_inj whole (by rw [complete, length_frontOf])).1

theorem Parts.carries {packet : Packet} {parts : Parts} {service : ServiceId}
    {messageId : UInt8} (whole : packet.data = parts.bytes)
    (front : parts.front = frontOf service messageId) :
    packet.hasHeader service = true ∧ packet.messageId? = some messageId := by
  rw [hasHeader_and_messageId?_iff, whole, parts.bytes_eq, front]
  exact ⟨parts.behindFront, rfl⟩

namespace Draft

/-- The parts of the packet that a draft with a signer becomes. -/
def parts (draft : Draft) (signer : PrivateKey) (content : Bytes) : Parts :=
  { front := frontOf draft.service draft.messageId
    key := signer.publicKey
    time := draft.globalTime
    content
    signature := signer.sign
      (signedText (frontOf draft.service draft.messageId) signer.publicKey draft.globalTime
        content) }

theorem frame_signed (draft : Draft) {signer : PrivateKey} (signs : draft.signer = some signer)
    (content : Bytes) : draft.frame content = (draft.parts signer content).bytes := by
  simp only [frame, front, signs, parts, Parts.bytes, Parts.text, signedText, frontOf,
    List.append_assoc]

theorem frame_unsigned (draft : Draft) (plain : draft.signer = none) (content : Bytes) :
    draft.frame content =
      frontOf draft.service draft.messageId ++ GlobalTime.encode draft.globalTime ++ content := by
  simp [frame, front, plain, frontOf]

theorem exists_frame_eq (draft : Draft) (content : Bytes) :
    ∃ rest, draft.frame content = frontOf draft.service draft.messageId ++ rest := by
  cases signs : draft.signer with
  | none =>
      refine ⟨GlobalTime.encode draft.globalTime ++ content, ?_⟩
      rw [frame_unsigned draft signs, List.append_assoc]
  | some signer =>
      rw [frame_signed draft signs, Parts.bytes_eq]
      exact ⟨(draft.parts signer content).behindFront, rfl⟩

variable {packet : Packet} {draft : Draft} {content : Bytes}

theorem carries_frame_iff (whole : packet.data = draft.frame content) {service : ServiceId}
    {messageId : UInt8} :
    packet.hasHeader service = true ∧ packet.messageId? = some messageId ↔
      draft.service = service ∧ draft.messageId = messageId := by
  obtain ⟨rest, starts⟩ := draft.exists_frame_eq content
  rw [hasHeader_and_messageId?_iff, whole, starts]
  constructor
  · rintro ⟨otherRest, same⟩
    exact frontOf_injective (List.append_inj same (by simp)).1
  · rintro ⟨rfl, rfl⟩
    exact ⟨rest, rfl⟩

/-- A written packet opens as what was written, if its signature verifies. -/
theorem openSigned_frame_iff {signer : PrivateKey} (signs : draft.signer = some signer)
    (whole : packet.data = draft.frame content) {Value : Type} {format : Format Value}
    {now : Instant} {signed : Signed Value} :
    packet.openSigned format now = .ok signed ↔
      (draft.parts signer content).Genuine ∧
        ∃ (payload : Value) (rest : Bytes), format.decode content = .ok (payload, rest) ∧
          signed = ⟨packet.signer signer.publicKey draft.globalTime now, draft.globalTime,
            payload⟩ := by
  rw [openSigned_eq_ok_iff, whole, frame_signed draft signs]
  have complete : (draft.parts signer content).front.length = headerSize := length_frontOf _ _
  constructor
  · rintro ⟨parts, payload, rest, genuine, same, decoded, rfl⟩
    cases Parts.bytes_injective same complete genuine.length_front
    exact ⟨genuine, payload, rest, decoded, rfl⟩
  · rintro ⟨genuine, payload, rest, decoded, rfl⟩
    exact ⟨_, payload, rest, genuine, rfl, decoded, rfl⟩

/-- A packet written without signature always opens. -/
theorem openUnsigned_frame (plain : draft.signer = none)
    (whole : packet.data = draft.frame content) {Value : Type} {format : Format Value}
    {payload : Value} {rest : Bytes} (decoded : format.decode content = .ok (payload, rest)) :
    packet.openUnsigned format = .ok ⟨draft.globalTime, payload⟩ := by
  rw [openUnsigned_eq_ok_iff, whole, frame_unsigned draft plain]
  exact ⟨_, content, rest, length_frontOf _ _, rfl, decoded⟩

end Draft

end Packet

end PeerDiscovery
