import PeerDiscovery.Curve.Field25519

/-!
# X25519

Key agreement on Curve25519.  A secret of 32 bytes is clamped where it is used,
and points are known by one coordinate; the ladder keeps two points whose
difference is the given one.  An agreement with a point of small order gives
zero, whatever the secret; such an exchange is not contributory.
-/

namespace PeerDiscovery

namespace X25519

open Field25519

def basePoint : Block 32 := Block.ofNatLE 32 9

/-- The scalar of a secret: a multiple of eight between `2 ^ 254` and
`2 ^ 255`. -/
def clamp (secret : Block 32) : Nat :=
  secret.toNatLE % (1 <<< 254) / 8 * 8 + (1 <<< 254)

structure Pair where
  x2 : Nat
  z2 : Nat
  x3 : Nat
  z3 : Nat

def Pair.swap (pair : Pair) : Pair :=
  ⟨pair.x3, pair.z3, pair.x2, pair.z2⟩

/-- The first point doubled, and the sum of both, whose difference is the point
with the coordinate `base`. -/
def Pair.step (base : Nat) (pair : Pair) : Pair :=
  let a := add pair.x2 pair.z2
  let aa := square a
  let b := sub pair.x2 pair.z2
  let bb := square b
  let e := sub aa bb
  let da := mul (sub pair.x3 pair.z3) a
  let cb := mul (add pair.x3 pair.z3) b
  { x2 := mul aa bb
    z2 := mul e (add aa (mul 121665 e))
    x3 := square (add da cb)
    z3 := mul base (square (sub da cb)) }

def ladder (base scalar : Nat) : Nat → Pair → Pair
  | 0, pair => pair
  | bits + 1, pair =>
    ladder base scalar bits
      (if scalar.testBit bits then (pair.swap.step base).swap else pair.step base)

def agree (secret point : Block 32) : Block 32 :=
  let base := ofBlock point
  let final := ladder base (clamp secret) 255 ⟨1, 0, base, 1⟩
  toBlock (mul final.x2 (inverse final.z2))

def publicKey (secret : Block 32) : Block 32 := agree secret basePoint

def isContributory (shared : Block 32) : Bool := shared.toNatLE != 0

/-- Whether two public halves are the same point: their highest bits are
ignored and their coordinates compared modulo the prime. -/
def samePoint (left right : Block 32) : Bool := ofBlock left == ofBlock right

end X25519

end PeerDiscovery
