import PeerDiscovery.Proofs.Curve.Points
import PeerDiscovery.Proofs.Packet.Grammar

/-!
# Serialized keys are canonical

Bytes are read as a key for their length, their marker and, of a public key, the point at their
end, and are checked for them in this order.  The key that is read is written with the very same
bytes.  Every key that somebody holds can be read again: the public half of a private key has a
point, because multiples of the base point are on the curve.

Two public keys that compare equal may be written differently all the same.  Their agreement
halves are compared as coordinates, for which the highest bit does not count and a number is as
good as its remainder.
-/

namespace PeerDiscovery

namespace Key

section

variable {marker bytes : Bytes}

theorem halves_of_wrongLength (long : bytes.length ≠ size) :
    halves marker bytes = .error (.wrongLength size bytes.length) :=
  if_neg long

theorem halves_of_wrongMarker (markerLength : marker.length = markerSize)
    (long : bytes.length = size) (unmarked : ¬marker <+: bytes) :
    halves marker bytes = .error .wrongMarker := by
  rw [List.prefix_iff_eq_take, markerLength, eq_comm] at unmarked
  rw [halves, if_pos long, if_neg unmarked]

theorem exists_halves (markerLength : marker.length = markerSize) (long : bytes.length = size)
    (marked : marker <+: bytes) :
    ∃ first second, halves marker bytes = .ok (first, second) := by
  rw [List.prefix_iff_eq_take, markerLength, eq_comm] at marked
  rw [halves, if_pos long, if_pos marked]
  exact ⟨_, _, rfl⟩

end

def EndsInPoint (bytes : Bytes) : Prop :=
  ∃ half : Block 32, half.bytes <:+ bytes ∧ (Ed25519.Point.decompress? half).isSome

theorem endsInPoint_append {front : Bytes} {half : Block 32} :
    EndsInPoint (front ++ half.bytes) ↔ (Ed25519.Point.decompress? half).isSome := by
  constructor
  · rintro ⟨other, ending, isPoint⟩
    have both : other.bytes <:+ half.bytes := by
      refine List.suffix_of_suffix_length_le ending (List.suffix_append _ _) ?_
      rw [other.length_bytes, half.length_bytes]
    have same : other.bytes = half.bytes :=
      both.eq_of_length (by rw [other.length_bytes, half.length_bytes])
    rw [← Block.ext same]
    exact isPoint
  · exact fun isPoint => ⟨half, List.suffix_append _ _, isPoint⟩

/-- The number that the agreement half stands for when its highest bit is ignored. -/
def coordinate (bytes : Bytes) : Nat := (Block.slice bytes 10 32).toNatLE % 2 ^ 255

/-- How keys of one kind, which have a marker and proper bytes, are read from bytes and written. -/
structure Serializes {Value : Type} (marker : Bytes) (proper : Bytes → Prop)
    (encode : Value → Bytes) (decode : Bytes → Except KeyError Value) (bytes : Bytes) : Prop where
  accepts : (∃ key, decode bytes = .ok key) ↔ bytes.length = 74 ∧ marker <+: bytes ∧ proper bytes
  wrongLength : bytes.length ≠ 74 → decode bytes = .error (.wrongLength 74 bytes.length)
  wrongMarker : bytes.length = 74 → ¬marker <+: bytes → decode bytes = .error .wrongMarker
  improper : bytes.length = 74 → marker <+: bytes → ¬proper bytes →
    decode bytes = .error .invalidPublicKey
  restores : ∀ key, decode bytes = .ok key → encode key = bytes ∧ decode (encode key) = .ok key
  distinguishes : ∀ other key, decode bytes = .ok key → decode other = .ok key → bytes = other

/-- Keys are serialized in this way if they are made of their two halves. -/
theorem serializes_of_halves {Value : Type} {marker : Bytes} {proper : Bytes → Prop}
    {encode : Value → Bytes} {decode : Bytes → Except KeyError Value}
    (make : Block 32 → Block 32 → Except KeyError Value)
    (markerLength : marker.length = markerSize)
    (decode_eq : ∀ bytes, decode bytes = do
      let (first, second) ← halves marker bytes
      make first second)
    (writes : ∀ first second key, make first second = .ok key →
      encode key = marker ++ first.bytes ++ second.bytes)
    (makes : ∀ first second, proper (marker ++ first.bytes ++ second.bytes) →
      ∃ key, make first second = .ok key)
    (fails : ∀ first second, ¬proper (marker ++ first.bytes ++ second.bytes) →
      make first second = .error .invalidPublicKey) (bytes : Bytes) :
    Serializes marker proper encode decode bytes := by
  have cut : bytes.length = size → marker <+: bytes →
      ∃ first second, bytes = marker ++ first.bytes ++ second.bytes ∧
        decode bytes = make first second := by
    intro long marked
    obtain ⟨first, second, cut⟩ := exists_halves markerLength long marked
    refine ⟨first, second, (halves_eq_ok_iff markerLength).1 cut, ?_⟩
    rw [decode_eq, cut]
    rfl
  have read : ∀ bytes key, decode bytes = .ok key →
      ∃ first second, bytes = marker ++ first.bytes ++ second.bytes ∧
        make first second = .ok key := by
    intro bytes key read
    rw [decode_eq, bind_eq_ok_iff] at read
    obtain ⟨⟨first, second⟩, cut, made⟩ := read
    exact ⟨first, second, (halves_eq_ok_iff markerLength).1 cut, made⟩
  have restores : ∀ bytes key, decode bytes = .ok key → encode key = bytes := by
    intro bytes key decoded
    obtain ⟨first, second, rfl, made⟩ := read bytes key decoded
    exact writes first second key made
  exact
    { accepts := by
        constructor
        · rintro ⟨key, decoded⟩
          obtain ⟨first, second, rfl, made⟩ := read bytes key decoded
          refine ⟨?_, ?_, by_contra fun improper => ?_⟩
          · rw [List.length_append, List.length_append, markerLength, first.length_bytes,
              second.length_bytes]
            rfl
          · rw [List.append_assoc]
            exact List.prefix_append _ _
          · rw [fails first second improper] at made
            cases made
        · rintro ⟨long, marked, isProper⟩
          obtain ⟨first, second, rfl, decoded⟩ := cut long marked
          rw [decoded]
          exact makes first second isProper
      wrongLength := by
        intro long
        rw [decode_eq, halves_of_wrongLength long]
        rfl
      wrongMarker := by
        intro long unmarked
        rw [decode_eq, halves_of_wrongMarker markerLength long unmarked]
        rfl
      improper := by
        intro long marked improper
        obtain ⟨first, second, rfl, decoded⟩ := cut long marked
        rw [decoded]
        exact fails first second improper
      restores := fun key decoded =>
        ⟨restores bytes key decoded, by rw [restores bytes key decoded, decoded]⟩
      distinguishes := fun other key decoded decodedOther =>
        (restores bytes key decoded).symm.trans (restores other key decodedOther) }

end Key

namespace PublicKey

theorem length_marker : marker.length = Key.markerSize := by decide

theorem drop_encode (key : PublicKey) : key.encode.drop 42 = key.verifying.bytes := by
  have length : (marker ++ key.agreement.bytes).length = 42 := by
    rw [List.length_append, key.agreement.length_bytes, length_marker]
    rfl
  rw [encode, ← length, List.drop_left]

theorem coordinate_encode (key : PublicKey) :
    Key.coordinate key.encode = key.agreement.toNatLE % 2 ^ 255 := by
  have cut := Block.slice_append marker key.agreement key.verifying.bytes
  rw [length_marker] at cut
  rw [Key.coordinate, encode]
  exact congrArg (fun half : Block 32 => half.toNatLE % 2 ^ 255) cut

theorem same_iff {left right : PublicKey} :
    left.same right = true ↔
      left.agreement.toNatLE % 2 ^ 255 ≡ right.agreement.toNatLE % 2 ^ 255 [MOD 2 ^ 255 - 19] ∧
        left.verifying = right.verifying := by
  rw [same, Bool.and_eq_true, beq_iff_eq, X25519.samePoint, beq_iff_eq, Field25519.ofBlock,
    Field25519.ofBlock, Field25519.modulus_eq, Nat.ModEq, Nat.one_shiftLeft]

/-- The key that two halves make, if the second one is the encoding of a point. -/
def ofHalves (agreement verifying : Block 32) : Except KeyError PublicKey := do
  let key : PublicKey := ⟨agreement, verifying⟩
  if key.isPoint then return key else throw .invalidPublicKey

theorem ofHalves_of_isPoint {agreement verifying : Block 32}
    (isPoint : (Ed25519.Point.decompress? verifying).isSome) :
    ofHalves agreement verifying = .ok ⟨agreement, verifying⟩ := by
  simp only [ofHalves, PublicKey.isPoint, isPoint, if_true]
  rfl

theorem ofHalves_of_not_isPoint {agreement verifying : Block 32}
    (pointless : ¬(Ed25519.Point.decompress? verifying).isSome) :
    ofHalves agreement verifying = .error .invalidPublicKey := by
  simp only [ofHalves, PublicKey.isPoint, pointless]
  rfl

theorem serializes (bytes : Bytes) :
    Key.Serializes marker Key.EndsInPoint encode decode bytes := by
  refine Key.serializes_of_halves ofHalves length_marker ?_ ?_ ?_ ?_ bytes
  · intro bytes
    simp only [decode, ofHalves]
  · intro agreement verifying key made
    by_cases isPoint : (Ed25519.Point.decompress? verifying).isSome
    · rw [ofHalves_of_isPoint isPoint] at made
      cases made
      rfl
    · rw [ofHalves_of_not_isPoint isPoint] at made
      cases made
  · intro agreement verifying ending
    exact ⟨_, ofHalves_of_isPoint (Key.endsInPoint_append.1 ending)⟩
  · intro agreement verifying ending
    exact ofHalves_of_not_isPoint fun isPoint => ending (Key.endsInPoint_append.2 isPoint)

end PublicKey

namespace PrivateKey

theorem length_marker : marker.length = Key.markerSize := by decide

/-- A private key is read from its own serialized form only. -/
theorem decode_eq_ok_iff {bytes : Bytes} {key : PrivateKey} :
    decode bytes = .ok key ↔ bytes = key.encode := by
  rw [decode, bind_eq_ok_iff, encode, ← Key.halves_eq_ok_iff length_marker]
  constructor
  · rintro ⟨⟨agreement, seed⟩, cut, ⟨⟩⟩
    exact cut
  · intro cut
    refine ⟨_, cut, congrArg Except.ok ?_⟩
    obtain ⟨agreement, seed, _, rfl⟩ := key
    rfl

theorem serializes (bytes : Bytes) :
    Key.Serializes marker (fun _ => True) encode decode bytes := by
  refine Key.serializes_of_halves (fun agreement seed => .ok (ofSecrets agreement seed))
    length_marker (fun _ => rfl) ?_ ?_ ?_ bytes
  · rintro agreement seed key ⟨⟩
    rfl
  · exact fun agreement seed _ => ⟨_, rfl⟩
  · exact fun agreement seed improper => absurd trivial improper

theorem isPoint_publicKey (key : PrivateKey) : key.publicKey.isPoint = true := by
  rw [PublicKey.isPoint, key.publicKey_eq, Ed25519.isSome_decompress?_publicKey]

end PrivateKey

namespace Key

/-- How canonical serialized keys are: whatever bytes are read, and whatever key somebody owns. -/
structure Canonical (bytes : Bytes) (own : PrivateKey) : Prop where
  publicKeys : Serializes PublicKey.marker EndsInPoint PublicKey.encode PublicKey.decode bytes
  privateKeys :
    Serializes PrivateKey.marker (fun _ => True) PrivateKey.encode PrivateKey.decode bytes
  apart : ∀ publicKey privateKey, PublicKey.decode bytes = .ok publicKey →
    PrivateKey.decode bytes ≠ .ok privateKey
  identifies : ∀ key, PublicKey.decode bytes = .ok key → key.memberId = MemberId.ofKeyBytes bytes
  owns : PrivateKey.decode own.encode = .ok own ∧
    PublicKey.decode own.publicKey.encode = .ok own.publicKey
  /-- Other private keys may have the same public half, if their secrets differ in nothing but
  what clamping ignores. -/
  shares : ∀ secret, X25519.clamp secret = X25519.clamp own.agreement →
    (PrivateKey.ofSecrets secret own.seed).publicKey = own.publicKey
  /-- Public keys that were read from different bytes may compare equal, -/
  compares : ∀ other first second, PublicKey.decode bytes = .ok first →
    PublicKey.decode other = .ok second →
      (first.same second = true ↔ bytes.drop 42 = other.drop 42 ∧
        coordinate bytes ≡ coordinate other [MOD 2 ^ 255 - 19])
  /-- but not if both belong to private keys. -/
  owned : ∀ other : PrivateKey,
    own.publicKey.same other.publicKey = true ↔ own.publicKey = other.publicKey

theorem exists_publicKey_eq (secret : Block 32) :
    ∃ value < Field25519.modulus, X25519.publicKey secret = Field25519.toBlock value :=
  ⟨_, Field25519.mul_lt _ _, rfl⟩

theorem samePoint_publicKey {left right : Block 32} :
    X25519.samePoint (X25519.publicKey left) (X25519.publicKey right) = true ↔
      X25519.publicKey left = X25519.publicKey right := by
  obtain ⟨first, firstReduced, first_eq⟩ := exists_publicKey_eq left
  obtain ⟨second, secondReduced, second_eq⟩ := exists_publicKey_eq right
  rw [X25519.samePoint, beq_iff_eq, first_eq, second_eq, Field25519.ofBlock_toBlock firstReduced,
    Field25519.ofBlock_toBlock secondReduced]
  constructor
  · exact congrArg Field25519.toBlock
  · intro same
    rw [← Field25519.ofBlock_toBlock firstReduced, same, Field25519.ofBlock_toBlock secondReduced]

/-- Bytes and keys determine each other, in all that is done with a key but the comparison of its
agreement half. -/
theorem isCanonical (bytes : Bytes) (own : PrivateKey) : Canonical bytes own where
  publicKeys := PublicKey.serializes bytes
  privateKeys := PrivateKey.serializes bytes
  apart := by
    intro publicKey privateKey readPublic readPrivate
    have marked := ((PublicKey.serializes bytes).accepts.1 ⟨_, readPublic⟩).2.1
    have otherwise := ((PrivateKey.serializes bytes).accepts.1 ⟨_, readPrivate⟩).2.1
    rw [List.prefix_iff_eq_take, PublicKey.length_marker] at marked
    rw [List.prefix_iff_eq_take, PrivateKey.length_marker, ← marked] at otherwise
    exact absurd otherwise (by decide)
  identifies := by
    intro key read
    rw [PublicKey.memberId, ((PublicKey.serializes bytes).restores key read).1]
  owns := ⟨PrivateKey.decode_eq_ok_iff.2 rfl,
    PublicKey.decode_eq_ok_iff.2 ⟨rfl, own.isPoint_publicKey⟩⟩
  shares := by
    intro secret clamped
    have agreement : X25519.publicKey secret = X25519.publicKey own.agreement := by
      rw [X25519.publicKey, X25519.publicKey, X25519.agree, X25519.agree, clamped]
    rw [own.publicKey_eq, ← agreement]
    rfl
  compares := by
    intro other first second read readOther
    obtain ⟨rfl, -⟩ := PublicKey.decode_eq_ok_iff.1 read
    obtain ⟨rfl, -⟩ := PublicKey.decode_eq_ok_iff.1 readOther
    rw [PublicKey.same_iff, first.drop_encode, second.drop_encode, first.coordinate_encode,
      second.coordinate_encode, Block.ext_iff, and_comm]
  owned := by
    intro other
    rw [PublicKey.same, Bool.and_eq_true, beq_iff_eq, own.publicKey_eq, other.publicKey_eq,
      samePoint_publicKey, PublicKey.mk.injEq]

/-- A public key with the usual base points as its halves, the first of which has its highest
bit set or not. -/
def basePoints (highest : Bool) : PublicKey :=
  ⟨Block.ofNatLE 32 (if highest then 9 + 2 ^ 255 else 9), Ed25519.Point.base.compress⟩

/-- The highest bit makes another text and another member of a key that compares equal. -/
theorem equal_under_two_texts :
    PublicKey.decode (basePoints false).encode = .ok (basePoints false) ∧
      PublicKey.decode (basePoints true).encode = .ok (basePoints true) ∧
      (basePoints false).encode ≠ (basePoints true).encode ∧
      (basePoints false).same (basePoints true) = true ∧
      (basePoints false).memberId ≠ (basePoints true).memberId := by
  refine ⟨?_, ?_, by decide +kernel, by decide +kernel, by decide +kernel⟩
  · exact PublicKey.decode_eq_ok_iff.2 ⟨rfl, Ed25519.Point.OnCurve.base.isSome_decompress?⟩
  · exact PublicKey.decode_eq_ok_iff.2 ⟨rfl, Ed25519.Point.OnCurve.base.isSome_decompress?⟩

end Key

end PeerDiscovery
