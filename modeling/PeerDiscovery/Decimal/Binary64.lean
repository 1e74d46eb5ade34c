import PeerDiscovery.Decimal.Basic
import PeerDiscovery.Circumstances

/-!
# Binary floating point of 64 bits

Every finite number of the format is a whole number of units of `2 ^ -1074`:
a significand of at most 53 bits, shifted to the left.  All arithmetic here is
exact arithmetic on those units, followed by one rounding to the nearest number
of the format, of two equally near ones to the one with an even significand.
-/

namespace PeerDiscovery

inductive Binary64 where
  | nan
  | infinite (negative : Bool)
  /-- The number `significand * 2 ^ (shift - 1074)`.  The significand has 53
  bits, or fewer if the shift is zero. -/
  | finite (negative : Bool) (significand shift : Nat)
deriving DecidableEq

namespace Binary64

/-- The number of units in one. -/
def one : Nat := 1 <<< 1074

def precision : Nat := 53

def maxShift : Nat := 2045

def half : Binary64 := finite false (1 <<< 52) 1021

/-- The quotient rounded to the nearest whole number, of two equally near ones
to the even one. -/
def roundedQuotient (numerator denominator : Nat) : Nat :=
  let quotient := numerator / denominator
  let twice := 2 * (numerator % denominator)
  if denominator < twice || (twice = denominator && quotient % 2 = 1) then quotient + 1
  else quotient

def nearest (negative : Bool) (numerator denominator : Nat) : Binary64 :=
  let units := numerator * one / denominator
  let shift := if units = 0 then 0 else units.log2 + 1 - precision
  let significand := roundedQuotient (numerator * one) (denominator <<< shift)
  let (significand, shift) :=
    if significand = 1 <<< precision then (1 <<< (precision - 1), shift + 1) else (significand, shift)
  if maxShift < shift then infinite negative else finite negative significand shift

/-- The number nearest to a decimal number.  A decimal number outside of
`10 ^ -400` to `10 ^ 400` is as good as zero or infinite. -/
def ofDecimal (negative : Bool) (decimal : Decimal) : Binary64 :=
  let magnitude := decimal.exponent + decimal.width
  if decimal.units = 0 || magnitude < -400 then finite negative 0 0
  else if 400 < magnitude then infinite negative
  else match decimal.exponent with
    | .ofNat count => nearest negative (decimal.units * Decimal.scale count) 1
    | .negSucc count => nearest negative decimal.units (Decimal.scale (count + 1))

def splitSign : List Char → Bool × List Char
  | '-' :: rest => (true, rest)
  | '+' :: rest => (false, rest)
  | chars => (false, chars)

/-- The number that a text spells: a decimal number, `inf`, `infinity` or `nan`
in letters of any case, with an optional sign. -/
def ofText? (text : String) : Option Binary64 :=
  let (negative, chars) := splitSign text.toList
  let word := String.ofList (chars.map Char.toLower)
  if word = "nan" then some nan
  else if word = "inf" || word = "infinity" then some (infinite negative)
  else (Decimal.ofChars? chars).map (ofDecimal negative)

def isFraction : Binary64 → Bool
  | finite negative significand shift =>
    significand = 0 || (!negative && significand <<< shift ≤ one)
  | _ => false

/-- Whether the number is greater than a fraction in units of `2 ^ -53`. -/
def exceeds (number : Binary64) (coin : Nat) : Bool :=
  match number with
  | nan => false
  | infinite negative => !negative
  | finite negative significand shift => !negative && coin <<< 1021 < significand <<< shift

def isWhole : Binary64 → Bool
  | finite _ significand shift => (significand <<< shift) % one = 0
  | _ => false

/-- So many seconds as a length of time, rounded to nanoseconds; a negative
number has none, nor has one of `2 ^ 64` seconds or more. -/
def toDuration? : Binary64 → Option Duration
  | finite negative significand shift =>
    let units := significand <<< shift
    if negative && units ≠ 0 then none
    else if one <<< 64 ≤ units then none
    else some (roundedQuotient (Duration.ofSeconds units) one)
  | _ => none

end Binary64

end PeerDiscovery
