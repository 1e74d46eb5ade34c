import PeerDiscovery.Proofs.Packet.Grammar
import PeerDiscovery.Proofs.Payload.Layout

/-!
# Signed packets by position

The readers find the key of a signed packet from the front and its signature from the
end.  This file names the regions of a byte string that these positions delimit.  In a
packet that opens they meet without a gap and without overlap, so that the signature
covers every byte before it, and a packet that does not open has a fault in one of them.
-/

namespace PeerDiscovery

theorem KeyField.claimed_encode_append {key : Bytes} (short : key.length < Bytes.bound 2)
    (rest : Bytes) : claimed (encode key ++ rest) = key.length := by
  have two : (Bytes.ofNatBE 2 key.length).length = 2 := Bytes.length_ofNatBE 2 _
  rw [claimed, encode, List.append_assoc, List.take_left' two, Bytes.toNatBE_ofNatBE,
    Nat.mod_eq_of_lt short]

namespace Packet

section

variable (packet : Packet)

/-- Where the length field says that the key ends. -/
def keyEnd : Nat := headerSize + 2 + KeyField.claimed (packet.data.drop headerSize)

def timeEnd : Nat := packet.keyEnd + 8

def keyBytes : Bytes := (packet.data.take packet.keyEnd).drop (headerSize + 2)

def covered : Bytes := packet.data.take (packet.data.length - signatureSize)

def signature : Bytes := packet.data.drop (packet.data.length - signatureSize)

/-- The payload between the global time and the signature. -/
def content : Bytes := packet.covered.drop packet.timeEnd

end

variable {packet : Packet} {parts : Parts}

theorem Parts.Genuine.decode_key (genuine : parts.Genuine) :
    PublicKey.decode parts.key.encode = .ok parts.key :=
  PublicKey.decode_eq_ok_iff.2 ⟨rfl, genuine.isPoint⟩

theorem Parts.Genuine.verify_text (genuine : parts.Genuine) :
    parts.key.verify parts.text parts.signature.bytes = .ok () :=
  PublicKey.verify_eq_ok_iff.2 ⟨parts.signature, rfl, genuine.verifies⟩

section

variable (whole : packet.data = parts.bytes) (complete : parts.front.length = headerSize)

include whole

theorem covered_eq : packet.covered = parts.text := by
  rw [covered, whole, Parts.bytes, List.length_append, parts.signature.length_bytes, signatureSize,
    Nat.add_sub_cancel, List.take_left]

theorem signature_eq : packet.signature = parts.signature.bytes := by
  rw [signature, whole, Parts.bytes, List.length_append, parts.signature.length_bytes,
    signatureSize, Nat.add_sub_cancel, List.drop_left]

include complete

theorem keyEnd_eq : packet.keyEnd = headerSize + 2 + Key.size := by
  have behind : packet.data.drop headerSize = parts.behindFront := by
    rw [whole, parts.bytes_eq, List.drop_left' complete]
  have short : parts.key.encode.length < Bytes.bound 2 := by
    rw [PublicKey.length_encode]
    decide
  rw [keyEnd, behind, Parts.behindFront, KeyField.claimed_encode_append short,
    PublicKey.length_encode]

theorem keyBytes_eq : packet.keyBytes = parts.key.encode := by
  have split : packet.data =
      (parts.front ++ Bytes.ofNatBE 2 parts.key.encode.length) ++ parts.key.encode ++
        (GlobalTime.encode parts.time ++ parts.content ++ parts.signature.bytes) := by
    rw [whole, parts.bytes_eq, Parts.behindFront, KeyField.encode]
    simp only [List.append_assoc]
  have start : (parts.front ++ Bytes.ofNatBE 2 parts.key.encode.length).length =
      headerSize + 2 := by
    rw [List.length_append, complete, Bytes.length_ofNatBE]
  have stop : ((parts.front ++ Bytes.ofNatBE 2 parts.key.encode.length) ++
      parts.key.encode).length = packet.keyEnd := by
    rw [List.length_append, start, PublicKey.length_encode, keyEnd_eq whole complete]
  rw [keyBytes, split, List.take_left' stop, List.drop_left' start]

theorem content_eq : packet.content = parts.content := by
  have before : (parts.front ++ KeyField.encode parts.key.encode ++
      GlobalTime.encode parts.time).length = packet.timeEnd := by
    simp only [List.length_append, KeyField.length_encode, PublicKey.length_encode,
      GlobalTime.length_encode, complete, timeEnd, keyEnd_eq whole complete]
    omega
  rw [content, covered_eq whole, Parts.text, signedText, List.drop_left' before]

theorem length_of_parts : packet.timeEnd + signatureSize ≤ packet.data.length := by
  have lengths := congrArg List.length whole
  simp only [Parts.bytes, Parts.text, signedText, List.length_append, KeyField.length_encode,
    PublicKey.length_encode, GlobalTime.length_encode, complete, parts.signature.length_bytes]
    at lengths
  rw [timeEnd, keyEnd_eq whole complete, lengths, signatureSize]
  omega

end

variable {Value : Type} {format : Format Value} {now : Instant}

theorem text_eq_append (parts : Parts) :
    parts.text = parts.front ++ [0x00, 0x4a] ++ parts.key.encode ++
      Bytes.ofNatBE 8 parts.time.toNat ++ parts.content := by
  have lengthField : Bytes.ofNatBE 2 Key.size = [0x00, 0x4a] := by decide
  rw [Parts.text, signedText, KeyField.encode, PublicKey.length_encode, lengthField,
    GlobalTime.encode]
  simp only [List.append_assoc]

/-- A byte string is a front, the length of the key, the key, the time, a payload and a
signature that the key verifies over all bytes before it. -/
def SplitsAs (format : Format Value) (data : Bytes) (key : PublicKey) (time : UInt64)
    (payload : Value) : Prop :=
  ∃ front keyBytes content signature text rest : Bytes,
    data = text ++ signature ∧
    text = front ++ [0x00, 0x4a] ++ keyBytes ++ Bytes.ofNatBE 8 time.toNat ++ content ∧
    front.length = 23 ∧ keyBytes.length = 74 ∧ signature.length = 64 ∧
    PublicKey.decode keyBytes = .ok key ∧ key.encode = keyBytes ∧
    key.verify text signature = .ok () ∧ format.decode content = .ok (payload, rest)

theorem openSigned_iff_splitsAs {key : PublicKey} {time : UInt64} {payload : Value} :
    (∃ signed, packet.openSigned format now = .ok signed ∧ signed.peer.key = .theirs key ∧
        signed.globalTime = time ∧ signed.payload = payload) ↔
      SplitsAs format packet.data key time payload := by
  constructor
  · rintro ⟨signed, opened, named, rfl, rfl⟩
    obtain ⟨parts, payload, rest, genuine, whole, decoded, rfl⟩ := openSigned_eq_ok_iff.1 opened
    cases named
    exact ⟨parts.front, parts.key.encode, parts.content, parts.signature.bytes, parts.text, rest,
      whole, text_eq_append parts, genuine.length_front, parts.key.length_encode,
      parts.signature.length_bytes, genuine.decode_key, rfl, genuine.verify_text, decoded⟩
  · rintro ⟨front, keyBytes, content, signature, text, rest, whole, split, frontLength, -, -,
      named, rfl, verified, decoded⟩
    obtain ⟨-, point⟩ := PublicKey.decode_eq_ok_iff.1 named
    obtain ⟨signature, rfl, signed⟩ := PublicKey.verify_eq_ok_iff.1 verified
    have text_eq := (text_eq_append ⟨front, key, time, content, signature⟩).trans split.symm
    refine ⟨_, openSigned_eq_ok_iff.2 ⟨⟨front, key, time, content, signature⟩, payload, rest,
      ⟨frontLength, point, ?_⟩, ?_, decoded, rfl⟩, rfl, rfl, rfl⟩
    · rw [text_eq]
      exact signed
    · rw [Parts.bytes, text_eq]
      exact whole

theorem verify_covered {signed : Signed Value}
    (opened : packet.openSigned format now = .ok signed) :
    signed.peer.key.publicKey.verify packet.covered packet.signature = .ok () := by
  obtain ⟨parts, payload, rest, genuine, whole, -, rfl⟩ := openSigned_eq_ok_iff.1 opened
  rw [covered_eq whole, signature_eq whole]
  exact genuine.verify_text

theorem data_eq_of_regions {Other : Type} {otherFormat : Format Other} {other : Packet}
    {later : Instant} {signed : Signed Value} {otherSigned : Signed Other}
    (opened : packet.openSigned format now = .ok signed)
    (otherOpened : other.openSigned otherFormat later = .ok otherSigned)
    (sameFront : packet.data.take headerSize = other.data.take headerSize)
    (sameKey : signed.peer.key.publicKey.encode = otherSigned.peer.key.publicKey.encode)
    (sameTime : signed.globalTime = otherSigned.globalTime)
    (sameContent : packet.content = other.content)
    (sameSignature : packet.signature = other.signature) : packet.data = other.data := by
  obtain ⟨parts, payload, rest, genuine, whole, -, rfl⟩ := openSigned_eq_ok_iff.1 opened
  obtain ⟨others, payload', rest', genuine', whole', -, rfl⟩ :=
    openSigned_eq_ok_iff.1 otherOpened
  have complete := genuine.length_front
  have complete' := genuine'.length_front
  rw [content_eq whole complete, content_eq whole' complete'] at sameContent
  rw [signature_eq whole, signature_eq whole'] at sameSignature
  rw [whole, whole', parts.bytes_eq, others.bytes_eq, List.take_left' complete,
    List.take_left' complete'] at sameFront
  have sameKeys : parts.key.encode = others.key.encode := sameKey
  have sameTimes : parts.time = others.time := sameTime
  rw [whole, whole', parts.bytes_eq, others.bytes_eq, Parts.behindFront, Parts.behindFront,
    sameFront, sameKeys, sameTimes, sameContent, sameSignature]

def sampleSigner : PrivateKey := .ofSecrets (Block.ofNatLE 32 1) (Block.ofNatLE 32 1)

def samplePuncture : Puncture := ⟨⟨⟨10, 0, 0, 1⟩, 8090⟩, ⟨⟨1, 1, 1, 1⟩, 8090⟩, 5⟩

def sampleText : Bytes :=
  frontOf ⟨Block.ofNatLE 20 0⟩ MembershipMessage.puncture.id ++ [0x00, 0x4a] ++
    sampleSigner.publicKey.encode ++ Bytes.ofNatBE 8 (7 : UInt64).toNat ++ samplePuncture.encode

def samplePacket (source : Address) : Packet :=
  ⟨source, sampleText ++ (sampleSigner.sign sampleText).bytes⟩

theorem isPoint_sampleSigner : sampleSigner.publicKey.isPoint = true := by decide +kernel

theorem verifies_sampleText :
    sampleSigner.publicKey.verifies sampleText (sampleSigner.sign sampleText) = true := by
  decide +kernel

/-- The signed packets that open are the byte strings of this grammar.  Hence a signature
covers every byte before it, and two of them with the same regions are the same. -/
theorem signed_by_regions :
    (∀ {Value : Type} (format : Format Value) (packet : Packet) (now : Instant)
      (key : PublicKey) (time : UInt64) (payload : Value),
      (∃ signed, packet.openSigned format now = .ok signed ∧ signed.peer.key = .theirs key ∧
          signed.globalTime = time ∧ signed.payload = payload) ↔
        SplitsAs format packet.data key time payload) ∧
    (∀ {Value : Type} (format : Format Value) (packet : Packet) (now : Instant)
      (signed : Signed Value), packet.openSigned format now = .ok signed →
      packet.covered ++ packet.signature = packet.data ∧ packet.signature.length = 64 ∧
        signed.peer.key.publicKey.verify packet.covered packet.signature = .ok ()) ∧
    ∀ {First Second : Type} (firstFormat : Format First) (secondFormat : Format Second)
      (first second : Packet) (now later : Instant) (firstSigned : Signed First)
      (secondSigned : Signed Second), first.openSigned firstFormat now = .ok firstSigned →
      second.openSigned secondFormat later = .ok secondSigned →
      first.data.take headerSize = second.data.take headerSize →
      firstSigned.peer.key.publicKey.encode = secondSigned.peer.key.publicKey.encode →
      firstSigned.globalTime = secondSigned.globalTime → first.content = second.content →
      first.signature = second.signature → first.data = second.data := by
  refine ⟨fun _ _ _ _ _ _ => openSigned_iff_splitsAs, ?_,
    fun _ _ _ _ _ _ _ _ => data_eq_of_regions⟩
  intro Value format packet now signed opened
  obtain ⟨parts, -, -, -, whole, -⟩ := openSigned_eq_ok_iff.1 opened
  have length : packet.signature.length = 64 := by
    rw [signature_eq whole, parts.signature.length_bytes]
  exact ⟨List.take_append_drop _ _, length, verify_covered opened⟩

theorem signed_by_regions_sample :
    ∃ first second : Signed Puncture,
      (samplePacket .empty).openSigned Puncture.format 0 = .ok first ∧
      (samplePacket ⟨⟨1, 1, 1, 1⟩, 1⟩).openSigned Puncture.format 1 = .ok second ∧
      first.peer.key.publicKey.verify (samplePacket .empty).covered
        (samplePacket .empty).signature = .ok () ∧
      (samplePacket .empty).data = (samplePacket ⟨⟨1, 1, 1, 1⟩, 1⟩).data := by
  have splits (source : Address) : SplitsAs Puncture.format (samplePacket source).data
      sampleSigner.publicKey 7 samplePuncture :=
    ⟨frontOf ⟨Block.ofNatLE 20 0⟩ MembershipMessage.puncture.id, sampleSigner.publicKey.encode,
      samplePuncture.encode, (sampleSigner.sign sampleText).bytes, sampleText, [], rfl, rfl,
      length_frontOf _ _, PublicKey.length_encode _, Block.length_bytes _,
      PublicKey.decode_eq_ok_iff.2 ⟨rfl, isPoint_sampleSigner⟩, rfl,
      PublicKey.verify_eq_ok_iff.2 ⟨_, rfl, verifies_sampleText⟩,
      samplePuncture.decode_encode_append []⟩
  obtain ⟨first, opened, named, timed, -⟩ :=
    (signed_by_regions.1 Puncture.format (samplePacket .empty) 0 _ _ _).2 (splits _)
  obtain ⟨second, otherOpened, otherNamed, otherTimed, -⟩ :=
    (signed_by_regions.1 Puncture.format (samplePacket ⟨⟨1, 1, 1, 1⟩, 1⟩) 1 _ _ _).2 (splits _)
  have covers := (signed_by_regions.2.1 _ _ _ _ opened).2.2
  have same := signed_by_regions.2.2 _ _ _ _ _ _ _ _ opened otherOpened rfl
    (by rw [named, otherNamed]) (timed.trans otherTimed.symm)
    (by simp only [content, covered, timeEnd, keyEnd, samplePacket])
    (by simp only [signature, samplePacket])
  exact ⟨first, second, opened, otherOpened, covers, same⟩

/-- The bytes before the signature, region by region. -/
theorem covered_eq_append (long : packet.timeEnd + signatureSize ≤ packet.data.length) :
    packet.covered = packet.data.take headerSize ++ (packet.data.drop headerSize).take 2 ++
      packet.keyBytes ++ (packet.data.drop packet.keyEnd).take 8 ++ packet.content := by
  have lengthEnd : headerSize + 2 ≤ packet.keyEnd := Nat.le_add_right _ _
  have toLength : (packet.data.take packet.keyEnd).take (headerSize + 2) =
      packet.data.take headerSize ++ (packet.data.drop headerSize).take 2 := by
    rw [List.take_take, Nat.min_eq_left lengthEnd, List.take_add]
  have toKey : packet.data.take packet.keyEnd = packet.data.take headerSize ++
      (packet.data.drop headerSize).take 2 ++ packet.keyBytes := by
    rw [keyBytes, ← toLength, List.take_append_drop]
  have toTime : packet.covered.take packet.timeEnd =
      packet.data.take packet.keyEnd ++ (packet.data.drop packet.keyEnd).take 8 := by
    rw [covered, List.take_take, Nat.min_eq_left (Nat.le_sub_of_add_le long), timeEnd,
      List.take_add]
  rw [← toKey, ← toTime, content, List.take_append_drop]

theorem lengthField_eq (inside : packet.keyEnd ≤ packet.data.length) :
    (packet.data.drop headerSize).take 2 = Bytes.ofNatBE 2 packet.keyBytes.length := by
  have claims : packet.keyBytes.length = KeyField.claimed (packet.data.drop headerSize) := by
    rw [keyBytes, List.length_drop, List.length_take_of_le inside, keyEnd,
      Nat.add_sub_cancel_left]
  have two : ((packet.data.drop headerSize).take 2).length = 2 := by
    rw [List.length_take, List.length_drop]
    unfold keyEnd at inside
    omega
  have spelled := Bytes.ofNatBE_toNatBE ((packet.data.drop headerSize).take 2)
  rw [two] at spelled
  rw [claims, KeyField.claimed, spelled]

/-- A packet that is long enough and whose key and signature are good is made of parts. -/
theorem exists_parts {key : PublicKey}
    (long : packet.timeEnd + signatureSize ≤ packet.data.length)
    (named : PublicKey.decode packet.keyBytes = .ok key)
    (verified : key.verify packet.covered packet.signature = .ok ()) :
    ∃ parts : Parts, parts.Genuine ∧ packet.data = parts.bytes := by
  obtain ⟨written, point⟩ := PublicKey.decode_eq_ok_iff.1 named
  obtain ⟨signature, tail, signed⟩ := PublicKey.verify_eq_ok_iff.1 verified
  have keyInside : packet.keyEnd ≤ packet.data.length := by
    unfold timeEnd at long
    omega
  have timeInside : 8 ≤ (packet.data.drop packet.keyEnd).length := by
    rw [List.length_drop]
    unfold timeEnd at long
    omega
  obtain ⟨time, timeField, -⟩ :=
    Cursor.isField_uint64.fits ⟨0, packet.data.drop packet.keyEnd⟩ timeInside
  have text : packet.covered =
      signedText (packet.data.take headerSize) key time packet.content := by
    rw [covered_eq_append long, lengthField_eq keyInside, written, ← timeField]
    simp only [signedText, KeyField.encode, GlobalTime.encode, List.append_assoc]
  refine ⟨⟨packet.data.take headerSize, key, time, packet.content, signature⟩,
    ⟨List.length_take_of_le ?_, point, ?_⟩, ?_⟩
  · unfold keyEnd at keyInside
    omega
  · rw [Parts.text, ← text]
    exact signed
  · rw [Parts.bytes, Parts.text, ← text, ← tail]
    exact (List.take_append_drop _ _).symm

/-- A fault of a signed packet whose payload should have a format. -/
inductive Fault (format : Format Value) (packet : Packet) : Prop where
  | truncated :
      packet.data.length < packet.timeEnd + signatureSize → Fault format packet
  | unparseableKey (cause : KeyError) :
      PublicKey.decode packet.keyBytes = .error cause → Fault format packet
  | badSignature (key : PublicKey) (cause : KeyError) :
      PublicKey.decode packet.keyBytes = .ok key →
      key.verify packet.covered packet.signature = .error cause → Fault format packet
  | undecodable (cause : PacketError) :
      format.decode packet.content = .error cause → Fault format packet

inductive PlainFault (format : Format Value) (packet : Packet) : Prop where
  | truncated : packet.data.length < headerSize + 8 → PlainFault format packet
  | undecodable (cause : PacketError) :
      format.decode (packet.data.drop (headerSize + 8)) = .error cause →
      PlainFault format packet

theorem not_fault_of_openSigned {signed : Signed Value}
    (opened : packet.openSigned format now = .ok signed) : ¬Fault format packet := by
  obtain ⟨parts, payload, rest, genuine, whole, decoded, -⟩ := openSigned_eq_ok_iff.1 opened
  have complete := genuine.length_front
  have named := genuine.decode_key
  rw [← keyBytes_eq whole complete] at named
  intro fault
  cases fault with
  | truncated short => exact Nat.not_lt.2 (length_of_parts whole complete) short
  | unparseableKey cause refused =>
    rw [named] at refused
    cases refused
  | badSignature key cause other refused =>
    cases named.symm.trans other
    rw [covered_eq whole, signature_eq whole, genuine.verify_text] at refused
    cases refused
  | undecodable cause refused =>
    rw [content_eq whole complete, decoded] at refused
    cases refused

theorem openSigned_eq_error_iff :
    (∃ cause, packet.openSigned format now = .error cause) ↔ Fault format packet := by
  constructor
  · rintro ⟨cause, refused⟩
    by_cases short : packet.data.length < packet.timeEnd + signatureSize
    · exact .truncated short
    cases named : PublicKey.decode packet.keyBytes with
    | error cause => exact .unparseableKey cause named
    | ok key =>
    cases verified : key.verify packet.covered packet.signature with
    | error cause => exact .badSignature key cause named verified
    | ok checked =>
    cases decoded : format.decode packet.content with
    | error cause => exact .undecodable cause decoded
    | ok found =>
    -- a packet without a fault would have opened
    obtain ⟨parts, genuine, whole⟩ := exists_parts (Nat.not_lt.1 short) named verified
    rw [content_eq whole genuine.length_front] at decoded
    have opened : packet.openSigned format now = .ok _ := openSigned_eq_ok_iff.2
      ⟨parts, found.1, found.2, genuine, whole, decoded, rfl⟩
    rw [refused] at opened
    cases opened
  · intro fault
    cases opened : packet.openSigned format now with
    | error cause => exact ⟨cause, rfl⟩
    | ok signed => exact absurd fault (not_fault_of_openSigned opened)

theorem openUnsigned_eq_error_iff :
    (∃ cause, packet.openUnsigned format = .error cause) ↔ PlainFault format packet := by
  constructor
  · rintro ⟨cause, refused⟩
    by_cases short : packet.data.length < headerSize + 8
    · exact .truncated short
    cases decoded : format.decode (packet.data.drop (headerSize + 8)) with
    | error cause => exact .undecodable cause decoded
    | ok found =>
    have timeInside : 8 ≤ (packet.data.drop headerSize).length := by
      rw [List.length_drop]
      omega
    obtain ⟨time, written, -⟩ :=
      Cursor.isField_uint64.fits ⟨0, packet.data.drop headerSize⟩ timeInside
    have split : packet.data =
        packet.data.take headerSize ++ GlobalTime.encode time ++
          packet.data.drop (headerSize + 8) := by
      rw [GlobalTime.encode, written, ← List.take_add, List.take_append_drop]
    have opened : packet.openUnsigned format = .ok ⟨time, found.1⟩ := openUnsigned_eq_ok_iff.2
      ⟨packet.data.take headerSize, packet.data.drop (headerSize + 8), found.2,
        List.length_take_of_le (by omega), split, decoded⟩
    rw [refused] at opened
    cases opened
  · intro fault
    cases opened : packet.openUnsigned format with
    | error cause => exact ⟨cause, rfl⟩
    | ok unsigned =>
    obtain ⟨front, content, rest, complete, whole, decoded⟩ := openUnsigned_eq_ok_iff.1 opened
    have before : (front ++ GlobalTime.encode unsigned.globalTime).length = headerSize + 8 := by
      rw [List.length_append, complete, GlobalTime.length_encode]
    cases fault with
    | truncated short =>
      rw [whole, List.length_append, before] at short
      omega
    | undecodable cause refused =>
      rw [whole, List.drop_left' before, decoded] at refused
      cases refused

end Packet

end PeerDiscovery
