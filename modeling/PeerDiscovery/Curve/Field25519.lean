import PeerDiscovery.Bytes

/-!
# The field of Curve25519

Numbers modulo the prime `2 ^ 255 - 19`, as natural numbers below it.  Every
operation gives a reduced number; square roots of quotients are found with one
power, because the prime leaves the rest five modulo eight.
-/

namespace PeerDiscovery

namespace Field25519

def modulus : Nat := (1 <<< 255) - 19

def add (left right : Nat) : Nat := (left + right) % modulus

def sub (left right : Nat) : Nat := (left + (modulus - right)) % modulus

def mul (left right : Nat) : Nat := left * right % modulus

def square (value : Nat) : Nat := mul value value

def neg (value : Nat) : Nat := sub 0 value

/-- A power whose exponent has at most `bits` bits: from the highest bit on,
square, and multiply where the bit is set. -/
def powBits (base exponent : Nat) : Nat → Nat → Nat
  | 0, result => result
  | bits + 1, result =>
    let squared := square result
    powBits base exponent bits
      (if exponent.testBit bits then mul squared base else squared)

def pow (base exponent : Nat) : Nat := powBits base exponent 256 1

/-- The inverse of a number other than zero, and zero for zero. -/
def inverse (value : Nat) : Nat := pow value (modulus - 2)

def rootOfMinusOne : Nat := pow 2 ((modulus - 1) / 4)

/-- Whether a reduced number counts as negative: its lowest bit decides. -/
def isNegative (value : Nat) : Bool := value % 2 == 1

/-- The square root of a quotient that does not count as negative, if there is
one. -/
def sqrtRatio? (numerator denominator : Nat) : Option Nat :=
  let cube := mul (square denominator) denominator
  let seventh := mul (square cube) denominator
  let candidate := mul (mul numerator cube)
    (pow (mul numerator seventh) ((modulus - 5) / 8))
  let check := mul denominator (square candidate)
  let positive (root : Nat) := if isNegative root then neg root else root
  if check = numerator then some (positive candidate)
  else if check = neg numerator then some (positive (mul candidate rootOfMinusOne))
  else none

/-- The number that 32 bytes stand for when their highest bit is ignored. -/
def ofBlock (block : Block 32) : Nat :=
  block.toNatLE % (1 <<< 255) % modulus

def toBlock (value : Nat) : Block 32 := Block.ofNatLE 32 value

end Field25519

end PeerDiscovery
