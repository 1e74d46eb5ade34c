import PeerDiscovery.Cipher.XChaCha20Poly1305
import PeerDiscovery.Curve.X25519
import PeerDiscovery.Error
import PeerDiscovery.Hash.Blake3

/-!
# Sealed boxes

A box is an ephemeral public half, a nonce, and the text encrypted under a key
that is derived from what the ephemeral secret and the recipient agree on and
from both public halves.  Only the recipient can open it, and the sender stays
anonymous.  The secret and the nonce are arguments, so that sealing is a
function.
-/

namespace PeerDiscovery

namespace SealedBox

def ephemeralSize : Nat := 32

def nonceSize : Nat := 24

def overhead : Nat := ephemeralSize + nonceSize + XChaCha20Poly1305.tagSize

def context : Bytes := Bytes.ofAscii "ipv8 2024 sealed box v1"

def key (shared ephemeral recipient : Block 32) : Bytes :=
  (Hash.blake3DeriveKey context
    (shared.bytes ++ ephemeral.bytes ++ recipient.bytes)).bytes

/-- A text sealed for a recipient, with a fresh secret and nonce. -/
def encrypt (recipient secret : Block 32) (nonce : Block 24) (text : Bytes) :
    Except KeyError Bytes :=
  let ephemeral := X25519.publicKey secret
  let shared := X25519.agree secret recipient
  if X25519.isContributory shared then
    .ok (ephemeral.bytes ++ nonce.bytes ++
      XChaCha20Poly1305.encrypt (key shared ephemeral recipient) nonce.bytes
        ephemeral.bytes text)
  else .error .invalidPublicKey

def decrypt (secret recipient : Block 32) (box : Bytes) : Except KeyError Bytes :=
  if box.length < overhead then .error .openingFailed
  else
    let ephemeral := Block.slice box 0 ephemeralSize
    let nonce := Block.slice box ephemeralSize nonceSize
    let shared := X25519.agree secret ephemeral
    if X25519.isContributory shared then
      match XChaCha20Poly1305.decrypt? (key shared ephemeral recipient) nonce.bytes
          ephemeral.bytes (box.drop (ephemeralSize + nonceSize)) with
      | some text => .ok text
      | none => .error .openingFailed
    else .error .openingFailed

end SealedBox

end PeerDiscovery
