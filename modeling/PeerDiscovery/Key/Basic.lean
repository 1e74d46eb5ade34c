import PeerDiscovery.Curve.Ed25519
import PeerDiscovery.Identifier
import PeerDiscovery.Key.SealedBox

/-!
# Keys of members

A key pair joins an X25519 half, for sealed boxes, with an Ed25519 half, for
signatures.  Serialized, both kinds of key have 74 bytes: a marker of ten bytes
and the two halves of 32 bytes each.  The SHA-1 digest of a serialized public
key identifies the member.
-/

namespace PeerDiscovery

namespace Key

def size : Nat := 74

def markerSize : Nat := 10

/-- The two halves behind the marker of a serialized key. -/
def halves (marker bytes : Bytes) : Except KeyError (Block 32 × Block 32) :=
  if bytes.length = size then
    if bytes.take markerSize = marker then
      .ok (Block.slice bytes markerSize 32, Block.slice bytes (markerSize + 32) 32)
    else .error .wrongMarker
  else .error (.wrongLength size bytes.length)

end Key

@[ext]
structure PublicKey where
  agreement : Block 32
  verifying : Block 32
deriving DecidableEq

namespace PublicKey

def marker : Bytes := Bytes.ofAscii "LibNaCLPK:"

def encode (key : PublicKey) : Bytes :=
  marker ++ key.agreement.bytes ++ key.verifying.bytes

/-- Whether the signing half is the encoding of a point. -/
def isPoint (key : PublicKey) : Bool :=
  (Ed25519.Point.decompress? key.verifying).isSome

/-- The key that bytes serialize.  Its halves keep the bytes they came with. -/
def decode (bytes : Bytes) : Except KeyError PublicKey := do
  let (agreement, verifying) ← Key.halves marker bytes
  let key : PublicKey := ⟨agreement, verifying⟩
  if key.isPoint then return key else throw .invalidPublicKey

def memberId (key : PublicKey) : MemberId :=
  MemberId.ofKeyBytes key.encode

def verifies (key : PublicKey) (message : Bytes) (signature : Block 64) : Bool :=
  Ed25519.verify key.verifying message signature

def verify (key : PublicKey) (message signature : Bytes) : Except KeyError Unit :=
  match Block.ofBytes? 64 signature with
  | none => .error .invalidSignature
  | some signature =>
    if key.verifies message signature then .ok () else .error .invalidSignature

def encrypt (key : PublicKey) (secret : Block 32) (nonce : Block 24) (text : Bytes) :
    Except KeyError Bytes :=
  SealedBox.encrypt key.agreement secret nonce text

/-- Whether two keys are the same for every use: the agreement halves may be
written differently. -/
def same (left right : PublicKey) : Bool :=
  X25519.samePoint left.agreement right.agreement && left.verifying == right.verifying

def describe (key : PublicKey) : String :=
  "PublicKey(" ++ key.memberId.text ++ ")"

@[simp]
theorem length_encode (key : PublicKey) : key.encode.length = Key.size := by
  simp [encode, marker, Bytes.ofAscii, key.agreement.length_bytes,
    key.verifying.length_bytes, Key.size]

end PublicKey

/-- The private half of an identity, with the public half that belongs to it. -/
structure PrivateKey where
  agreement : Block 32
  seed : Block 32
  publicKey : PublicKey
  publicKey_eq : publicKey = ⟨X25519.publicKey agreement, Ed25519.publicKey seed⟩

namespace PrivateKey

def ofSecrets (agreement seed : Block 32) : PrivateKey :=
  ⟨agreement, seed, _, rfl⟩

def marker : Bytes := Bytes.ofAscii "LibNaCLSK:"

def encode (key : PrivateKey) : Bytes :=
  marker ++ key.agreement.bytes ++ key.seed.bytes

def decode (bytes : Bytes) : Except KeyError PrivateKey := do
  let (agreement, seed) ← Key.halves marker bytes
  return ofSecrets agreement seed

def memberId (key : PrivateKey) : MemberId := key.publicKey.memberId

def sign (key : PrivateKey) (message : Bytes) : Block 64 :=
  Ed25519.sign key.seed key.publicKey.verifying message

def decrypt (key : PrivateKey) (box : Bytes) : Except KeyError Bytes :=
  SealedBox.decrypt key.agreement key.publicKey.agreement box

def describe (key : PrivateKey) : String :=
  "PrivateKey(" ++ key.memberId.text ++ ")"

end PrivateKey

/-- What one holds of an identity: of other members the public half, of oneself
both. -/
inductive Key where
  | theirs (key : PublicKey)
  | own (key : PrivateKey)

namespace Key

def publicKey : Key → PublicKey
  | theirs key => key
  | own key => key.publicKey

def privateKey? : Key → Option PrivateKey
  | theirs _ => none
  | own key => some key

def memberId (key : Key) : MemberId := key.publicKey.memberId

def same (left right : Key) : Bool := left.publicKey.same right.publicKey

/-- The key that bytes serialize; the marker tells the two kinds apart. -/
def decode (bytes : Bytes) : Except KeyError Key :=
  if bytes.take markerSize = PrivateKey.marker then
    (PrivateKey.decode bytes).map own
  else (PublicKey.decode bytes).map theirs

end Key

end PeerDiscovery
