import PeerDiscovery.Cipher.Row

/-!
# BLAKE3 key derivation

BLAKE3 in its key derivation mode: the hash of a context string gives the
starting value for the hash of the key material.  The material of a sealed box
is far shorter than a chunk of 1024 bytes, so only the chaining inside one
chunk is needed: `chunk` is the hash of every string of at most 1024 bytes.
-/

namespace PeerDiscovery

namespace Hash

namespace Blake3

def startLow : Row := ⟨0x6a09e667, 0xbb67ae85, 0x3c6ef372, 0xa54ff53a⟩

def startHigh : Row := ⟨0x510e527f, 0x9b05688c, 0x1f83d9ab, 0x5be0cd19⟩

/-- The order in which a round takes the words of the round before. -/
def permutation : List Nat :=
  [2, 6, 3, 10, 7, 0, 4, 13, 1, 11, 12, 5, 9, 14, 15, 8]

def chunkStart : Nat := 1

def chunkEnd : Nat := 2

def root : Nat := 8

def deriveContext : Nat := 32

def deriveMaterial : Nat := 64

/-- All columns mixed with two rows of message words. -/
def mixColumns (square : Square) (first second : Row) : Square :=
  let a := square.a + square.b + first
  let d := (square.d.xor a).rotateLeft 16
  let c := square.c + d
  let b := (square.b.xor c).rotateLeft 20
  let a := a + b + second
  let d := (d.xor a).rotateLeft 24
  let c := c + d
  let b := (b.xor c).rotateLeft 25
  ⟨a, b, c, d⟩

/-- The words at even and at odd places of eight message words. -/
def evens (words : List UInt32) (start : Nat) : Row :=
  let word (index : Nat) := words.getD (start + 2 * index) 0
  ⟨word 0, word 1, word 2, word 3⟩

/-- One round: the columns with the first eight message words, the diagonals
with the others. -/
def round (square : Square) (words : List UInt32) : Square :=
  let mixed := mixColumns square (evens words 0) (evens words 1)
  (mixColumns mixed.diagonals (evens words 8) (evens words 9)).columns

/-- Rounds with the message words permuted between them. -/
def rounds : Nat → List UInt32 → Square → Square
  | 0, _, square => square
  | count + 1, words, square =>
    rounds count (permutation.map fun index => words.getD index 0) (round square words)

structure Chain where
  low : Row
  high : Row

def Chain.toBytes (chain : Chain) : Bytes :=
  Words.toBytesLE32 (chain.low.toList ++ chain.high.toList)

/-- The chaining value after a block of at most 64 bytes. -/
def compress (chain : Chain) (block : Bytes) (flags : Nat) : Chain :=
  let words := Words.ofBytesLE32 (block ++ Bytes.filled (64 - block.length) 0)
  let square : Square :=
    ⟨chain.low, chain.high, startLow, ⟨0, 0, .ofNat block.length, .ofNat flags⟩⟩
  let mixed := rounds 7 words square
  ⟨mixed.a.xor mixed.c, mixed.b.xor mixed.d⟩

/-- The blocks of a chunk: the first and the last one are marked. -/
def blocks (flags : Nat) : Nat → List Bytes → Chain → Chain
  | _, [], chain => chain
  | start, [last], chain => compress chain last (flags + start + chunkEnd + root)
  | start, block :: rest, chain => blocks flags 0 rest (compress chain block (flags + start))

def chunk (start : Chain) (flags : Nat) (message : Bytes) : Chain :=
  let pieces := if message.isEmpty then [[]] else message.pieces 64
  blocks flags chunkStart pieces start

end Blake3

/-- The key derived in a context from key material of at most 1024 bytes. -/
def blake3DeriveKey (context material : Bytes) : Block 32 :=
  let start := Blake3.chunk ⟨Blake3.startLow, Blake3.startHigh⟩ Blake3.deriveContext context
  ⟨(Blake3.chunk start Blake3.deriveMaterial material).toBytes, by simp [Blake3.Chain.toBytes]⟩

end Hash

end PeerDiscovery
