/-!
# Decimal numbers

A decimal number is a natural number of units, each a power of ten.  It is
written in positional notation, without any exponent, and read with a point and
an exponent where they are given.
-/

namespace PeerDiscovery

@[ext]
structure Decimal where
  units : Nat
  exponent : Int
deriving DecidableEq

namespace Decimal

/-- How many units in the last of so many decimal places make one: a power of
ten. -/
def scale (places : Nat) : Nat := Nat.pow 10 places

def width (decimal : Decimal) : Nat := (Nat.repr decimal.units).length

def zeros (count : Nat) : String := String.ofList (List.replicate count '0')

def text (decimal : Decimal) : String :=
  let digits := Nat.repr decimal.units
  match decimal.exponent with
  | .ofNat count => digits ++ zeros count
  | .negSucc count =>
    let places := count + 1
    let padded := (zeros (places + 1 - digits.length) ++ digits).toList
    let whole := padded.length - places
    String.ofList (padded.take whole) ++ "." ++ String.ofList (padded.drop whole)

def splitDigits (chars : List Char) : List Char × List Char := chars.span Char.isDigit

def digitsValue (digits : List Char) : Nat :=
  digits.foldl (fun value digit => 10 * value + (digit.toNat - '0'.toNat)) 0

/-- An exponent: digits after an optional sign. -/
def exponent? (chars : List Char) : Option Int :=
  let (negative, digits) := match chars with
    | '-' :: rest => (true, rest)
    | '+' :: rest => (false, rest)
    | rest => (false, rest)
  if digits.isEmpty || !digits.all Char.isDigit then none
  else
    let value : Int := digitsValue digits
    some (if negative then -value else value)

/-- A number without sign: digits, of which some may stand behind a point, and
an exponent after `e` or `E`.  At least one digit stands before the exponent. -/
def ofChars? (chars : List Char) : Option Decimal :=
  let (whole, rest) := splitDigits chars
  let (fraction, rest) := match rest with
    | '.' :: rest => splitDigits rest
    | rest => ([], rest)
  let units := digitsValue (whole ++ fraction)
  if whole.isEmpty && fraction.isEmpty then none
  else match rest with
    | [] => some ⟨units, -fraction.length⟩
    | mark :: rest =>
      if mark = 'e' || mark = 'E' then
        (exponent? rest).map fun exponent => ⟨units, exponent - fraction.length⟩
      else none

end Decimal

end PeerDiscovery
