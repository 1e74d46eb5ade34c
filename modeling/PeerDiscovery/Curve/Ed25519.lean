import PeerDiscovery.Curve.Field25519
import PeerDiscovery.Hash.Sha

/-!
# Ed25519 signatures

Points of the twisted Edwards curve `y² - x² = 1 + d x² y²` in extended
coordinates: a point has `x = X / Z`, `y = Y / Z` and `x y = T / Z`.  Addition
has no exceptions.

A signature is the compressed point `R` and the scalar `S`.  It is accepted
when `S` is below the order of the group and `S B - k A`, compressed, has the
bytes of `R`; there is no multiplication by the cofactor.  A public key is
taken as it comes: it has to decompress, but may have small order or be written
with a coordinate that is not reduced, and the bytes hashed are those given.
-/

namespace PeerDiscovery

namespace Ed25519

open Field25519

/-- The order of the group that the base point generates. -/
def order : Nat := (1 <<< 252) + 27742317777372353535851937790883648493

def curveParameter : Nat :=
  37095705934669439343138083508754565189542113879843219016388785533085940283555

structure Point where
  x : Nat
  y : Nat
  z : Nat
  t : Nat

namespace Point

def zero : Point := ⟨0, 1, 1, 0⟩

def affine (x y : Nat) : Point := ⟨x, y, 1, mul x y⟩

/-- The base point: the one with `y = 4 / 5` whose `x` is even. -/
def base : Point :=
  affine 15112221349535400772501151409588531511454012693041857206046113283949847762202
    46316835694926478169428394003475163141307993866256225615783033603165251855960

def neg (point : Point) : Point :=
  { point with x := Field25519.neg point.x, t := Field25519.neg point.t }

def add (left right : Point) : Point :=
  let a := mul (sub left.y left.x) (sub right.y right.x)
  let b := mul (Field25519.add left.y left.x) (Field25519.add right.y right.x)
  let c := mul (mul left.t (2 * curveParameter)) right.t
  let d := mul (2 * left.z) right.z
  let e := sub b a
  let f := sub d c
  let g := Field25519.add d c
  let h := Field25519.add b a
  ⟨mul e f, mul g h, mul f g, mul e h⟩

def double (point : Point) : Point :=
  let a := square point.x
  let b := square point.y
  let c := mul 2 (square point.z)
  let h := Field25519.add a b
  let e := sub h (square (Field25519.add point.x point.y))
  let g := sub a b
  let f := Field25519.add c g
  ⟨mul e f, mul g h, mul f g, mul e h⟩

/-- A multiple over the lowest `bits` bits of a scalar: from the highest bit
on, double, and add where the bit is set. -/
def multiplyBits (point : Point) (scalar : Nat) : Nat → Point → Point
  | 0, sum => sum
  | bits + 1, sum =>
    multiplyBits point scalar bits
      (if scalar.testBit bits then sum.double.add point else sum.double)

def multiply (scalar : Nat) (point : Point) : Point :=
  multiplyBits point scalar 256 zero

/-- The coordinate `y` in 32 bytes, with the sign of `x` in the highest bit. -/
def compress (point : Point) : Block 32 :=
  let inverseZ := inverse point.z
  let x := mul point.x inverseZ
  let y := mul point.y inverseZ
  Block.ofNatLE 32 (if isNegative x then y + (1 <<< 255) else y)

/-- The point that 32 bytes stand for, if there is one. -/
def decompress? (bytes : Block 32) : Option Point := do
  let y := ofBlock bytes
  let ySquare := square y
  let x ← sqrtRatio? (sub ySquare 1) (Field25519.add (mul curveParameter ySquare) 1)
  let negative := bytes.toNatLE.testBit 255
  return affine (if negative then Field25519.neg x else x) y

end Point

def scalarOfDigest (digest : Block 64) : Nat := digest.toNatLE % order

/-- The secret scalar of a seed: the first half of its digest, clamped. -/
def secretScalar (seed : Block 32) : Nat :=
  let half := Bytes.toNatLE ((Hash.sha512 seed.bytes).bytes.take 32)
  (half % (1 <<< 254) / 8 * 8 + (1 <<< 254)) % order

/-- The second half of the digest of a seed, from which nonces are made. -/
def nonceSeed (seed : Block 32) : Bytes :=
  (Hash.sha512 seed.bytes).bytes.drop 32

def publicKey (seed : Block 32) : Block 32 :=
  (Point.base.multiply (secretScalar seed)).compress

/-- The scalar that binds the first half of a signature to key and message. -/
def challenge (commitment key : Block 32) (message : Bytes) : Nat :=
  scalarOfDigest (Hash.sha512 (commitment.bytes ++ key.bytes ++ message))

/-- The signature of a message by a seed with its public half. -/
def sign (seed key : Block 32) (message : Bytes) : Block 64 :=
  let nonce := scalarOfDigest (Hash.sha512 (nonceSeed seed ++ message))
  let commitment := (Point.base.multiply nonce).compress
  let response := (nonce + challenge commitment key message * secretScalar seed) % order
  ⟨commitment.bytes ++ Bytes.ofNatLE 32 response, by simp [commitment.length_bytes]⟩

def commitmentOf (signature : Block 64) : Block 32 :=
  ⟨signature.bytes.take 32, by simp [signature.length_bytes]⟩

def responseOf (signature : Block 64) : Nat :=
  Bytes.toNatLE (signature.bytes.drop 32)

/-- Whether a signature of a message was made by the owner of a key. -/
def verify (key : Block 32) (message : Bytes) (signature : Block 64) : Bool :=
  match Point.decompress? key with
  | none => false
  | some point =>
    let response := responseOf signature
    let commitment := commitmentOf signature
    let recomputed := (Point.base.multiply response).add
      (point.neg.multiply (challenge commitment key message))
    response < order && recomputed.compress == commitment

end Ed25519

end PeerDiscovery
