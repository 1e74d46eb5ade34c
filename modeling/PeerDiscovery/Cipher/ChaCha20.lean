import PeerDiscovery.Cipher.Row

/-!
# ChaCha20

A key, a nonce and a block counter fill a square of words; ten double rounds
mix it.  The mixed square added to the first one is a block of key stream, and
a text is encrypted by exclusive or with the key stream.  The mixed square
itself gives a new key from a key and a nonce, by which the nonce is extended
to 24 bytes.
-/

namespace PeerDiscovery

namespace ChaCha20

def constants : Row :=
  ⟨0x61707865, 0x3320646e, 0x79622d32, 0x6b206574⟩

/-- The square of a key of eight words and a last row of counter and nonce. -/
def square (key last : List UInt32) : Square :=
  ⟨constants, .ofList key 0, .ofList key 4, .ofList last 0⟩

def columnRound (square : Square) : Square :=
  let a := square.a + square.b
  let d := (square.d.xor a).rotateLeft 16
  let c := square.c + d
  let b := (square.b.xor c).rotateLeft 12
  let a := a + b
  let d := (d.xor a).rotateLeft 8
  let c := c + d
  let b := (b.xor c).rotateLeft 7
  ⟨a, b, c, d⟩

def doubleRound (square : Square) : Square :=
  (columnRound (columnRound square).diagonals).columns

def permute (square : Square) : Square :=
  Nat.repeat doubleRound 10 square

def block (key : List UInt32) (nonce : List UInt32) (counter : Nat) : Bytes :=
  let first := square key (.ofNat counter :: nonce)
  Words.toBytesLE32 ((permute first).add first).toList

/-- `count` blocks of key stream from the given counter on. -/
def keyStream (key nonce : List UInt32) (counter count : Nat) : Bytes :=
  (List.range count).flatMap fun index => block key nonce (counter + index)

/-- A text under the key stream from the given counter on.  Applied twice, it
gives the text back. -/
def crypt (key nonce : List UInt32) (counter : Nat) (text : Bytes) : Bytes :=
  text.xor (keyStream key nonce counter ((text.length + 63) / 64))

def deriveKey (key nonce : List UInt32) : List UInt32 :=
  let mixed := permute (square key nonce)
  mixed.a.toList ++ mixed.d.toList

@[simp]
theorem length_block (key nonce : List UInt32) (counter : Nat) :
    (block key nonce counter).length = 64 := by
  simp [block]

@[simp]
theorem length_keyStream (key nonce : List UInt32) (counter count : Nat) :
    (keyStream key nonce counter count).length = 64 * count := by
  induction count with
  | zero => rfl
  | succ count ih =>
    rw [keyStream, List.range_succ, List.flatMap_append, List.length_append]
    rw [keyStream] at ih
    simp [ih]
    omega

@[simp]
theorem length_crypt (key nonce : List UInt32) (counter : Nat) (text : Bytes) :
    (crypt key nonce counter text).length = text.length := by
  simp [crypt]
  omega

theorem crypt_crypt (key nonce : List UInt32) (counter : Nat) (text : Bytes) :
    crypt key nonce counter (crypt key nonce counter text) = text := by
  have sameLength := length_crypt key nonce counter text
  rw [crypt, sameLength, crypt]
  apply Bytes.xor_xor_cancel
  simp
  omega

end ChaCha20

end PeerDiscovery
