import PeerDiscovery.Bytes.Words

/-!
# SHA-1 and SHA-512

The 160-bit hash turns a serialized public key into a member identifier, and the 512-bit hash is
what signatures are made of.  A message is followed by one set bit, zeros, and its length in bits,
so that the whole is cut into blocks without a rest.  The message schedule is kept as a window of
the last sixteen words.

The round constants of SHA-512 are the first 64 bits of the fractional parts of the cube roots of
the first eighty primes, its initial chaining value those of the square roots of the first eight.
-/

namespace PeerDiscovery

namespace Hash

/-- The message padded to blocks of `blockSize` bytes with a length field of
`lengthSize` bytes. -/
def padded (blockSize lengthSize : Nat) (message : Bytes) : Bytes :=
  let used := (message.length + 1 + lengthSize) % blockSize
  let zeros := Bytes.filled ((blockSize - used) % blockSize) 0
  message ++ 0x80 :: zeros ++ Bytes.ofNatBE lengthSize (8 * message.length)

namespace Sha1

structure State where
  a : UInt32
  b : UInt32
  c : UInt32
  d : UInt32
  e : UInt32

def initial : State :=
  ⟨0x67452301, 0xefcdab89, 0x98badcfe, 0x10325476, 0xc3d2e1f0⟩

def nextWord (window : List UInt32) : UInt32 :=
  let word (index : Nat) := window.getD index 0
  Words.rotateLeft32 (word 13 ^^^ word 8 ^^^ word 2 ^^^ word 0) 1

/-- The round function and constant of each twenty rounds. -/
def mix (index : Nat) (b c d : UInt32) : UInt32 :=
  if index < 20 then ((b &&& c) ||| (~~~b &&& d)) + 0x5a827999
  else if index < 40 then (b ^^^ c ^^^ d) + 0x6ed9eba1
  else if index < 60 then ((b &&& c) ||| (b &&& d) ||| (c &&& d)) + 0x8f1bbcdc
  else (b ^^^ c ^^^ d) + 0xca62c1d6

def round (state : State) (index : Nat) (word : UInt32) : State :=
  { a := Words.rotateLeft32 state.a 5 + mix index state.b state.c state.d + state.e + word
    b := state.a
    c := Words.rotateLeft32 state.b 30
    d := state.c
    e := state.d }

def rounds : Nat → Nat → List UInt32 → State → State
  | 0, _, _, state => state
  | count + 1, index, window, state =>
    rounds count (index + 1) (window.tail ++ [nextWord window])
      (round state index (window.headD 0))

def compress (state : State) (block : Bytes) : State :=
  let mixed := rounds 80 0 (Words.ofBytesBE32 block) state
  ⟨state.a + mixed.a, state.b + mixed.b, state.c + mixed.c, state.d + mixed.d,
    state.e + mixed.e⟩

end Sha1

def sha1 (message : Bytes) : Block 20 :=
  let final := ((padded 64 8 message).pieces 64).foldl Sha1.compress Sha1.initial
  ⟨Words.toBytesBE32 [final.a, final.b, final.c, final.d, final.e], by simp⟩

namespace Sha512

structure State where
  a : UInt64
  b : UInt64
  c : UInt64
  d : UInt64
  e : UInt64
  f : UInt64
  g : UInt64
  h : UInt64

def initial : State :=
  ⟨0x6a09e667f3bcc908, 0xbb67ae8584caa73b, 0x3c6ef372fe94f82b,
   0xa54ff53a5f1d36f1, 0x510e527fade682d1, 0x9b05688c2b3e6c1f,
   0x1f83d9abfb41bd6b, 0x5be0cd19137e2179⟩

def roundConstants : List UInt64 :=
  [0x428a2f98d728ae22, 0x7137449123ef65cd, 0xb5c0fbcfec4d3b2f,
   0xe9b5dba58189dbbc, 0x3956c25bf348b538, 0x59f111f1b605d019,
   0x923f82a4af194f9b, 0xab1c5ed5da6d8118, 0xd807aa98a3030242,
   0x12835b0145706fbe, 0x243185be4ee4b28c, 0x550c7dc3d5ffb4e2,
   0x72be5d74f27b896f, 0x80deb1fe3b1696b1, 0x9bdc06a725c71235,
   0xc19bf174cf692694, 0xe49b69c19ef14ad2, 0xefbe4786384f25e3,
   0x0fc19dc68b8cd5b5, 0x240ca1cc77ac9c65, 0x2de92c6f592b0275,
   0x4a7484aa6ea6e483, 0x5cb0a9dcbd41fbd4, 0x76f988da831153b5,
   0x983e5152ee66dfab, 0xa831c66d2db43210, 0xb00327c898fb213f,
   0xbf597fc7beef0ee4, 0xc6e00bf33da88fc2, 0xd5a79147930aa725,
   0x06ca6351e003826f, 0x142929670a0e6e70, 0x27b70a8546d22ffc,
   0x2e1b21385c26c926, 0x4d2c6dfc5ac42aed, 0x53380d139d95b3df,
   0x650a73548baf63de, 0x766a0abb3c77b2a8, 0x81c2c92e47edaee6,
   0x92722c851482353b, 0xa2bfe8a14cf10364, 0xa81a664bbc423001,
   0xc24b8b70d0f89791, 0xc76c51a30654be30, 0xd192e819d6ef5218,
   0xd69906245565a910, 0xf40e35855771202a, 0x106aa07032bbd1b8,
   0x19a4c116b8d2d0c8, 0x1e376c085141ab53, 0x2748774cdf8eeb99,
   0x34b0bcb5e19b48a8, 0x391c0cb3c5c95a63, 0x4ed8aa4ae3418acb,
   0x5b9cca4f7763e373, 0x682e6ff3d6b2b8a3, 0x748f82ee5defb2fc,
   0x78a5636f43172f60, 0x84c87814a1f0ab72, 0x8cc702081a6439ec,
   0x90befffa23631e28, 0xa4506cebde82bde9, 0xbef9a3f7b2c67915,
   0xc67178f2e372532b, 0xca273eceea26619c, 0xd186b8c721c0c207,
   0xeada7dd6cde0eb1e, 0xf57d4f7fee6ed178, 0x06f067aa72176fba,
   0x0a637dc5a2c898a6, 0x113f9804bef90dae, 0x1b710b35131c471b,
   0x28db77f523047d84, 0x32caab7b40c72493, 0x3c9ebe0a15c9bebc,
   0x431d67c49c100d4c, 0x4cc5d4becb3e42b6, 0x597f299cfc657e2a,
   0x5fcb6fab3ad6faec, 0x6c44198c4a475817]

def nextWord (window : List UInt64) : UInt64 :=
  let word (index : Nat) := window.getD index 0
  let early := word 1
  let late := word 14
  let earlyMix := Words.rotateRight64 early 1 ^^^ Words.rotateRight64 early 8 ^^^ (early >>> 7)
  let lateMix := Words.rotateRight64 late 19 ^^^ Words.rotateRight64 late 61 ^^^ (late >>> 6)
  word 0 + earlyMix + word 9 + lateMix

def round (state : State) (constant word : UInt64) : State :=
  let eMix := Words.rotateRight64 state.e 14 ^^^ Words.rotateRight64 state.e 18 ^^^
    Words.rotateRight64 state.e 41
  let choice := (state.e &&& state.f) ^^^ (~~~state.e &&& state.g)
  let first := state.h + eMix + choice + constant + word
  let aMix := Words.rotateRight64 state.a 28 ^^^ Words.rotateRight64 state.a 34 ^^^
    Words.rotateRight64 state.a 39
  let majority := (state.a &&& state.b) ^^^ (state.a &&& state.c) ^^^ (state.b &&& state.c)
  { a := first + aMix + majority
    b := state.a
    c := state.b
    d := state.c
    e := state.d + first
    f := state.e
    g := state.f
    h := state.g }

/-- One round for each constant, with a window of the next sixteen words. -/
def rounds : List UInt64 → List UInt64 → State → State
  | [], _, state => state
  | constant :: constants, window, state =>
    rounds constants (window.tail ++ [nextWord window])
      (round state constant (window.headD 0))

def compress (state : State) (block : Bytes) : State :=
  let mixed := rounds roundConstants (Words.ofBytesBE64 block) state
  ⟨state.a + mixed.a, state.b + mixed.b, state.c + mixed.c, state.d + mixed.d,
    state.e + mixed.e, state.f + mixed.f, state.g + mixed.g, state.h + mixed.h⟩

end Sha512

def sha512 (message : Bytes) : Block 64 :=
  let final := ((padded 128 16 message).pieces 128).foldl Sha512.compress Sha512.initial
  ⟨Words.toBytesBE64
    [final.a, final.b, final.c, final.d, final.e, final.f, final.g, final.h], by simp⟩

end Hash

end PeerDiscovery
