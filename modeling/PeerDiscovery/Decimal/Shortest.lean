import PeerDiscovery.Decimal.Binary64

/-!
# The shortest decimal text of a binary number

The decimal numbers that round to a given binary number fill an interval around
it.  Of those on the coarsest decimal grid that meets the interval, the nearest
one is written; of two equally near ones the greater.
-/

namespace PeerDiscovery

namespace Binary64

/-- The decimal numbers that round to one binary number, in quarters of a unit.
The ends belong to it if the significand is even. -/
structure Preimage where
  lower : Nat
  value : Nat
  upper : Nat
  hasEnds : Bool

/-- The decimal numbers that round to a binary number.  Below a power of two the
next number is only half as far away. -/
def preimage (significand shift : Nat) : Preimage :=
  let value := (4 * significand) <<< shift
  let below := if significand = 1 <<< 52 && shift ≠ 0 then 1 <<< shift else 2 <<< shift
  { lower := value - below
    value
    upper := value + (2 <<< shift)
    hasEnds := significand % 2 = 0 }

def step (exponent : Int) : Nat × Nat :=
  match exponent with
  | .ofNat count => (Decimal.scale count, 1)
  | .negSucc count => (1, Decimal.scale (count + 1))

/-- The point of a grid nearest to the value among the points, other than zero,
that round to the number. -/
def Preimage.pointOn? (around : Preimage) (exponent : Int) : Option Decimal :=
  let (numerator, denominator) := step exponent
  let width := numerator * (4 * one)
  let value := around.value * denominator
  let isInside (point : Nat) : Bool :=
    let place := point * width
    let lower := around.lower * denominator
    let upper := around.upper * denominator
    point ≠ 0 && ((lower < place && place < upper) ||
      (around.hasEnds && (place = lower || place = upper)))
  let below := value / width
  let above := below + 1
  let isAboveNearer := above * width - value ≤ value - below * width
  match isInside below, isInside above with
  | true, true => some ⟨if isAboveNearer then above else below, exponent⟩
  | true, false => some ⟨below, exponent⟩
  | false, true => some ⟨above, exponent⟩
  | false, false => none

/-- The grids on which the points of some finite number lie, coarsest first. -/
def grids : List Int := (List.range 640).map fun index : Nat => 310 - (index : Int)

/-- The shortest decimal number that rounds to a binary number. -/
def shortest (significand shift : Nat) : Decimal :=
  if significand = 0 then ⟨0, 0⟩
  else (grids.findSome? (preimage significand shift).pointOn?).getD ⟨0, 0⟩

/-- The number in positional notation with as few digits as tell it apart. -/
def text : Binary64 → String
  | nan => "NaN"
  | infinite negative => (if negative then "-" else "") ++ "inf"
  | finite negative significand shift =>
    (if negative then "-" else "") ++ (shortest significand shift).text

end Binary64

end PeerDiscovery
