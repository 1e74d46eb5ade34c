import PeerDiscovery.Cipher.ChaCha20

/-!
# Authenticated encryption

ChaCha20 with a nonce of 24 bytes encrypts, and Poly1305 over the associated
data and the ciphertext authenticates: the value at a secret point of the
polynomial whose coefficients are the pieces of the text, modulo the prime
`2 ^ 130 - 5`.  The tag stands behind the ciphertext.
What was encrypted is decrypted under the same key, nonce and associated data
(`decrypt?_encrypt`).
-/

namespace PeerDiscovery

namespace Poly1305

def modulus : Nat := (1 <<< 130) - 5

/-- The bits of the secret point that may be set. -/
def pointMask : Nat := 0x0ffffffc0ffffffc0ffffffc0fffffff

/-- A piece of text as a coefficient: its bytes with a one behind them. -/
def coefficient (piece : Bytes) : Nat :=
  piece.toNatLE + Bytes.bound piece.length

/-- The polynomial of the text at a point, by the rule of Horner. -/
def evaluate (point : Nat) (text : Bytes) : Nat :=
  (text.pieces 16).foldl (fun sum piece => (sum + coefficient piece) * point % modulus) 0

def tag (key text : Bytes) : Bytes :=
  let point := Bytes.toNatLE (key.take 16) &&& pointMask
  let mask := Bytes.toNatLE (key.drop 16)
  Bytes.ofNatLE 16 (evaluate point text + mask)

@[simp]
theorem length_tag (key text : Bytes) : (tag key text).length = 16 :=
  Bytes.length_ofNatLE 16 _

end Poly1305

namespace XChaCha20Poly1305

def tagSize : Nat := 16

def padding (bytes : Bytes) : Bytes :=
  Bytes.filled ((16 - bytes.length % 16) % 16) 0

def authenticated (associated ciphertext : Bytes) : Bytes :=
  associated ++ padding associated ++ ciphertext ++ padding ciphertext ++
    Bytes.ofNatLE 8 associated.length ++ Bytes.ofNatLE 8 ciphertext.length

/-- The key of the message cipher: derived from the key and the first sixteen
bytes of the nonce. -/
def messageKey (key nonce : Bytes) : List UInt32 :=
  ChaCha20.deriveKey (Words.ofBytesLE32 key) (Words.ofBytesLE32 (nonce.take 16))

/-- The nonce of the message cipher: the remaining eight bytes. -/
def messageNonce (nonce : Bytes) : List UInt32 :=
  0 :: Words.ofBytesLE32 (nonce.drop 16)

/-- The tag of a ciphertext, under a one-time key from the first block of key
stream. -/
def tag (key nonce associated ciphertext : Bytes) : Bytes :=
  let oneTimeKey := (ChaCha20.block (messageKey key nonce) (messageNonce nonce) 0).take 32
  Poly1305.tag oneTimeKey (authenticated associated ciphertext)

/-- The ciphertext without its tag: the text under the key stream from the
second block on. -/
def crypt (key nonce text : Bytes) : Bytes :=
  ChaCha20.crypt (messageKey key nonce) (messageNonce nonce) 1 text

def encrypt (key nonce associated text : Bytes) : Bytes :=
  let ciphertext := crypt key nonce text
  ciphertext ++ tag key nonce associated ciphertext

def decrypt? (key nonce associated sealed : Bytes) : Option Bytes :=
  let ciphertext := sealed.take (sealed.length - tagSize)
  if sealed.length < tagSize then none
  else if tag key nonce associated ciphertext = sealed.drop (sealed.length - tagSize) then
    some (crypt key nonce ciphertext)
  else none

@[simp]
theorem length_crypt (key nonce text : Bytes) : (crypt key nonce text).length = text.length :=
  ChaCha20.length_crypt _ _ 1 text

@[simp]
theorem length_tag (key nonce associated ciphertext : Bytes) :
    (tag key nonce associated ciphertext).length = tagSize :=
  Poly1305.length_tag _ _

@[simp]
theorem length_encrypt (key nonce associated text : Bytes) :
    (encrypt key nonce associated text).length = text.length + tagSize := by
  simp [encrypt]

theorem decrypt?_encrypt (key nonce associated text : Bytes) :
    decrypt? key nonce associated (encrypt key nonce associated text) = some text := by
  have boxLength := length_encrypt key nonce associated text
  have textLength : (crypt key nonce text).length = text.length := length_crypt key nonce text
  have ciphertextSize : (encrypt key nonce associated text).length - tagSize =
      (crypt key nonce text).length := by omega
  have front : (encrypt key nonce associated text).take (crypt key nonce text).length =
      crypt key nonce text := List.take_left
  have back : (encrypt key nonce associated text).drop (crypt key nonce text).length =
      tag key nonce associated (crypt key nonce text) := List.drop_left
  have longEnough : ¬ (encrypt key nonce associated text).length < tagSize := by omega
  rw [decrypt?, ciphertextSize, front, back, if_neg longEnough, if_pos rfl]
  exact congrArg some (ChaCha20.crypt_crypt _ _ 1 text)

end XChaCha20Poly1305

end PeerDiscovery
